import ApiPlatform.PolicyEngine.Xds.ChainBuild

/-!
# Four builders of one chain

The xDS handler, the file loader and the kernel (`internal/kernel`) and the embeddable engine
(`pkg/engine`) repeat one loop.  They differ in the metadata that a factory gets, and the engine
in the flags.
-/

namespace ApiPlatform.PolicyEngine

open Foundation

namespace PolicyChain

variable {World Params : Type}

/-- The engine looks for the header interfaces without the modes, and lets a policy that can
stream do so in any body mode. -/
def addMirrored (chain : PolicyChain World Params) (entry : ChainEntry World Params) :
    PolicyChain World Params :=
  let mode := entry.policy.mode
  { chain.addPolicy entry with
    supportsRequestStreaming := chain.supportsRequestStreaming &&
      (!mode.requestBodyMode.readsBody || entry.policy.streamingRequestPolicy.isSome)
    supportsResponseStreaming := chain.supportsResponseStreaming &&
      (!mode.responseBodyMode.readsBody || entry.policy.streamingResponsePolicy.isSome)
    requiresRequestHeader := chain.requiresRequestHeader || entry.policy.onRequestHeaders.isSome
    requiresResponseHeader :=
      chain.requiresResponseHeader || entry.policy.onResponseHeaders.isSome }

def mirrored (entries : List (ChainEntry World Params)) : PolicyChain World Params :=
  (entries.foldl addMirrored start).clearStreaming

variable {entries : List (ChainEntry World Params)}

section Flags

variable (entries) (has : Policy World Params → Bool)

/-- A policy with the header interface comes with one that also processes the headers. -/
def HeadersAgree (mode : ProcessingMode → HeaderProcessingMode) : Prop :=
  ∀ entry ∈ entries, has entry.policy = true →
    ∃ other ∈ entries, mode other.policy.mode = .process ∧ has other.policy = true

/-- Where all policies on bodies can stream, none of them asks for a buffer. -/
def StreamingAgrees (mode : ProcessingMode → BodyProcessingMode) : Prop :=
  (∀ entry ∈ entries, (mode entry.policy.mode).readsBody = true → has entry.policy = true) →
    ∀ entry ∈ entries, mode entry.policy.mode ≠ .buffer

structure FlagsAgree : Prop where
  requestHeader : HeadersAgree entries (·.onRequestHeaders.isSome) (·.requestHeaderMode)
  responseHeader : HeadersAgree entries (·.onResponseHeaders.isSome) (·.responseHeaderMode)
  requestStreaming :
    StreamingAgrees entries (·.streamingRequestPolicy.isSome) (·.requestBodyMode)
  responseStreaming :
    StreamingAgrees entries (·.streamingResponsePolicy.isSome) (·.responseBodyMode)

variable {entries}

theorem header_flag_iff {mode : ProcessingMode → HeaderProcessingMode}
    (flag : PolicyChain World Params → Bool)
    (hown : ∀ chain entry, flag (addPolicy chain entry) =
      (flag chain || (mode entry.policy.mode == .process && has entry.policy)))
    (hmirrored : ∀ chain entry, flag (addMirrored chain entry) = (flag chain || has entry.policy))
    (hstart : flag start = false) :
    flag (entries.foldl addPolicy start) = flag (entries.foldl addMirrored start) ↔
      HeadersAgree entries has mode := by
  rw [foldl_or flag _ hown, foldl_or flag _ hmirrored, hstart, Bool.eq_iff_iff]
  simp only [Bool.false_or, List.any_eq_true, Bool.and_eq_true, beq_iff_eq]
  constructor
  · intro hagree entry hentry hhas
    exact hagree.mpr ⟨entry, hentry, hhas⟩
  · intro hall
    exact ⟨fun ⟨entry, hentry, _, hhas⟩ => ⟨entry, hentry, hhas⟩,
      fun ⟨entry, hentry, hhas⟩ => hall entry hentry hhas⟩

theorem streaming_flag_iff {mode : ProcessingMode → BodyProcessingMode}
    (streaming body : PolicyChain World Params → Bool)
    (hown : ∀ chain entry, streaming (addPolicy chain entry) =
      (streaming chain && allowsStreaming (mode entry.policy.mode) (has entry.policy)))
    (hmirrored : ∀ chain entry, streaming (addMirrored chain entry) =
      (streaming chain && (!(mode entry.policy.mode).readsBody || has entry.policy)))
    (hbody : ∀ chain entry,
      body (addPolicy chain entry) = (body chain || (mode entry.policy.mode).readsBody) ∧
        body (addMirrored chain entry) = (body chain || (mode entry.policy.mode).readsBody))
    (hstart : streaming start = true ∧ body start = false) :
    (streaming (entries.foldl addPolicy start) && body (entries.foldl addPolicy start)) =
        (streaming (entries.foldl addMirrored start) && body (entries.foldl addMirrored start)) ↔
      StreamingAgrees entries has mode := by
  rw [foldl_and streaming _ hown, foldl_and streaming _ hmirrored,
    foldl_or body _ fun chain entry => (hbody chain entry).1,
    foldl_or body _ fun chain entry => (hbody chain entry).2, hstart.1, hstart.2, Bool.eq_iff_iff]
  simp only [Bool.true_and, Bool.false_or, Bool.and_eq_true, List.all_eq_true, List.any_eq_true,
    Bool.or_eq_true, Bool.not_eq_true', ← Bool.not_eq_true]
  constructor
  · intro hagree hall entry hentry hbuffer
    have hallows := (hagree.mpr ⟨fun other hother => imp_iff_not_or.mp (hall other hother),
      entry, hentry, by rw [hbuffer]; rfl⟩).1 entry hentry
    simp [hbuffer, allowsStreaming] at hallows
  · intro hnone
    refine and_congr_left' ⟨fun hall entry hentry => ?_, fun hall entry hentry => ?_⟩
    · have hallows := hall entry hentry
      cases hmode : mode entry.policy.mode <;>
        simp_all [allowsStreaming, BodyProcessingMode.readsBody]
    · have hbuffer := hnone (fun other hother => imp_iff_not_or.mpr (hall other hother)) entry
      have hstreams := hall entry hentry
      cases hmode : mode entry.policy.mode <;>
        simp_all [allowsStreaming, BodyProcessingMode.readsBody]

end Flags

/-- What all builders compute alike. -/
def base (chain : PolicyChain World Params) :=
  (chain.entries, chain.requiresRequestBody, chain.requiresResponseBody,
    chain.hasExecutionConditions)

theorem base_foldl_addMirrored :
    ∀ {first second : PolicyChain World Params}, first.base = second.base →
      (entries.foldl addPolicy first).base = (entries.foldl addMirrored second).base := by
  induction entries with
  | nil => exact id
  | cons entry rest ih =>
    intro first second hbase
    refine ih ?_
    simp only [base, Prod.mk.injEq] at hbase
    simp [base, addPolicy, addMirrored, hbase]

theorem mirrored_eq_iff : mirrored entries = ofEntries entries ↔ FlagsAgree entries := by
  have hbase : (entries.foldl addPolicy start).base = (entries.foldl addMirrored start).base :=
    base_foldl_addMirrored rfl
  simp only [base, Prod.mk.injEq] at hbase
  obtain ⟨hentries, hrequest, hresponse, hconditions⟩ := hbase
  rw [eq_comm, ofEntries, mirrored, clearStreaming, clearStreaming, PolicyChain.mk.injEq,
    streaming_flag_iff (·.streamingRequestPolicy.isSome) supportsRequestStreaming
      requiresRequestBody (fun _ _ => rfl) (fun _ _ => rfl) (fun _ _ => ⟨rfl, rfl⟩) ⟨rfl, rfl⟩,
    streaming_flag_iff (·.streamingResponsePolicy.isSome) supportsResponseStreaming
      requiresResponseBody (fun _ _ => rfl) (fun _ _ => rfl) (fun _ _ => ⟨rfl, rfl⟩) ⟨rfl, rfl⟩,
    header_flag_iff (·.onRequestHeaders.isSome) requiresRequestHeader (fun _ _ => rfl)
      (fun _ _ => rfl) rfl,
    header_flag_iff (·.onResponseHeaders.isSome) requiresResponseHeader (fun _ _ => rfl)
      (fun _ _ => rfl) rfl]
  constructor
  · rintro ⟨-, -, -, hreq, hresp, -, hreqHeader, hrespHeader⟩
    exact ⟨hreqHeader, hrespHeader, hreq, hresp⟩
  · exact fun hagree => ⟨hentries, hrequest, hresponse, hagree.requestStreaming,
      hagree.responseStreaming, hconditions, hagree.requestHeader, hagree.responseHeader⟩

@[simp] theorem entries_mirrored : (mirrored entries).entries = entries :=
  (congrArg Prod.fst (base_foldl_addMirrored rfl)).symm.trans entries_ofEntries

theorem map_mirrored_eq_iff {built expected : Option (List (ChainEntry World Params))} :
    built.map mirrored = expected.map ofEntries ↔
      built = expected ∧ ∀ entries, expected = some entries → FlagsAgree entries := by
  constructor
  · intro heq
    have hsame : built = expected := by
      simpa [Function.comp_def] using congrArg (Option.map PolicyChain.entries) heq
    refine ⟨hsame, fun entries hsome => mirrored_eq_iff.mp ?_⟩
    rw [hsame, hsome] at heq
    exact Option.some.inj heq
  · rintro ⟨rfl, hflags⟩
    exact Option.map_congr fun entries hmem => mirrored_eq_iff.mpr (hflags entries hmem)

end PolicyChain

namespace Xds

open PolicyChain

variable {World Value : Type}

def PolicyChainConfig.specs (config : PolicyChainConfig Value) :
    List (PolicySpec (Parameters Value)) :=
  (config.policies.getD []).map fun policyConfig =>
    { name := policyConfig.name
      version := policyConfig.version
      enabled := policyConfig.enabled
      parameters := policyConfig.parameters.getD ∅
      executionCondition := policyConfig.executionCondition }

def Metadata.ofRoute (apiMetadata : Metadata) (routeName attachedTo : String) : PolicyMetadata :=
  ⟨routeName, apiMetadata.apiId, apiMetadata.apiName, apiMetadata.version, attachedTo⟩

namespace PolicyRegistry

variable (registry : PolicyRegistry World Value)

section Loop

variable (metadataOf : PolicySpec (Parameters Value) → PolicyMetadata)
  (add : PolicyChain World (Parameters Value) → ChainEntry World (Parameters Value) →
    PolicyChain World (Parameters Value))
  (separator : String) (policySpecs : List (PolicySpec (Parameters Value)))
  (chain : PolicyChain World (Parameters Value))

/-- The loop of the builders; the separator stands before the registry's error. -/
def buildChain : Except String (PolicyChain World (Parameters Value)) := do
  let chain ← policySpecs.foldlM
    (fun chain spec => do
      let (impl, mergedParams) ← (registry.getInstance spec.name spec.version (metadataOf spec)
        spec.parameters).mapError ("failed to create policy instance " ++ spec.name ++ ":" ++
          spec.version ++ separator ++ ·)
      pure (add chain ⟨impl, { spec with parameters := mergedParams }⟩))
    chain
  pure chain.clearStreaming

/-- The instances of a chain, if the registry makes them all. -/
def instances : Option (List (ChainEntry World (Parameters Value))) :=
  policySpecs.mapM fun spec =>
    (registry.getInstance spec.name spec.version (metadataOf spec) spec.parameters).toOption.map
      fun built => ⟨built.1, { spec with parameters := built.2 }⟩

theorem toOption_buildChain :
    (registry.buildChain metadataOf add separator policySpecs chain).toOption =
      (registry.instances metadataOf policySpecs).map fun entries =>
        (entries.foldl add chain).clearStreaming := by
  induction policySpecs generalizing chain with
  | nil => rfl
  | cons spec rest ih =>
    rw [instances, List.mapM_cons, ← instances]
    cases hbuilt : registry.getInstance spec.name spec.version
      (metadataOf spec) spec.parameters with
    | error problem =>
      simp only [buildChain, List.foldlM_cons, hbuilt]
      rfl
    | ok built =>
      have hstep : registry.buildChain metadataOf add separator (spec :: rest) chain =
          registry.buildChain metadataOf add separator rest
            (add chain ⟨built.1, { spec with parameters := built.2 }⟩) := by
        simp only [buildChain, List.foldlM_cons, hbuilt]
        rfl
      rw [hstep, ih]
      cases registry.instances metadataOf rest <;> rfl

end Loop

variable (routeKey : String) (config : PolicyChainConfig Value) (apiMetadata : Metadata)

def handlerInstances : Option (List (ChainEntry World (Parameters Value))) :=
  registry.instances (fun spec =>
    apiMetadata.ofRoute routeKey (registry.attachedTo spec.parameters))
    config.specs

theorem toOption_buildPolicyChain :
    (registry.buildPolicyChain routeKey config apiMetadata).toOption =
      (registry.handlerInstances routeKey config apiMetadata).map .ofEntries := by
  refine Eq.trans (congrArg Except.toOption ?_) (registry.toOption_buildChain _ _ ": " _ _)
  rw [buildChain, PolicyChainConfig.specs, List.foldlM_map]
  simp only [buildPolicyChain, buildEntry, bind_assoc]
  rfl

def configLoaderBuildPolicyChain : Except String (PolicyChain World (Parameters Value)) :=
  registry.buildChain (fun _ => apiMetadata.ofRoute routeKey "") addPolicy
    (" for route " ++ routeKey ++ ": ") config.specs start

def kernelBuildPolicyChain (policySpecs : List (PolicySpec (Parameters Value)))
    (apiMetadata : PolicyMetadata) : Except String (PolicyChain World (Parameters Value)) :=
  registry.buildChain (fun _ => { apiMetadata with routeName := routeKey, attachedTo := "" })
    addPolicy (" for route " ++ routeKey ++ ": ") policySpecs start

def engineBuildPolicyChain : Except String (PolicyChain World (Parameters Value)) :=
  registry.buildChain (fun _ => ⟨routeKey, "", "", "", ""⟩) addMirrored ": " config.specs start

/-- The metadata that only some builders pass on make no difference to the instances, and the
flags of these agree. -/
structure BuildersAgree : Prop where
  attachedTo : registry.instances (fun _ => apiMetadata.ofRoute routeKey "") config.specs =
    registry.handlerInstances routeKey config apiMetadata
  api : registry.instances (fun _ => ⟨routeKey, "", "", "", ""⟩) config.specs =
    registry.handlerInstances routeKey config apiMetadata
  flags : ∀ entries, registry.handlerInstances routeKey config apiMetadata = some entries →
    FlagsAgree entries

theorem builders_agree_iff (name level : String) :
    (∀ chain ∈ [registry.configLoaderBuildPolicyChain routeKey config apiMetadata,
        registry.kernelBuildPolicyChain routeKey config.specs (apiMetadata.ofRoute name level),
        registry.engineBuildPolicyChain routeKey config],
      chain.toOption = (registry.buildPolicyChain routeKey config apiMetadata).toOption) ↔
    registry.BuildersAgree routeKey config apiMetadata := by
  have hinjective : Function.Injective (ofEntries : _ → PolicyChain World (Parameters Value)) :=
    Function.LeftInverse.injective fun _ => entries_ofEntries
  rw [List.forall_mem_cons, List.forall_mem_cons, List.forall_mem_singleton,
    configLoaderBuildPolicyChain, kernelBuildPolicyChain, engineBuildPolicyChain]
  simp only [toOption_buildChain, toOption_buildPolicyChain]
  constructor
  · rintro ⟨hloader, -, hengine⟩
    obtain ⟨hapi, hflags⟩ := map_mirrored_eq_iff.mp hengine
    exact ⟨Option.map_injective hinjective hloader, hapi, hflags⟩
  · intro hagree
    have hloader := congrArg (Option.map ofEntries) hagree.attachedTo
    exact ⟨hloader, hloader, map_mirrored_eq_iff.mpr ⟨hagree.api, hagree.flags⟩⟩

/-- The policy skips the request headers although it could read them. -/
def idleRegistry : PolicyRegistry Unit Unit where
  policies := insertAll ∅ [("idle:v1", ⟨none, fun _ _ => .ok
    { mode := ⟨.skip, .skip, .skip, .skip⟩
      onRequestHeaders := some fun _ _ world => (none, world) }⟩)]
  configResolver := some .ok
  asString := fun _ => none

def idleConfig : PolicyChainConfig Unit :=
  ⟨"route", some [⟨"idle", "v1", true, none, none⟩]⟩

theorem engine_requires_idle_headers :
    (idleRegistry.buildPolicyChain "route" idleConfig ⟨0, 0, 0, "", "", "", ""⟩).toOption.map
        (·.requiresRequestHeader) = some false ∧
      (idleRegistry.engineBuildPolicyChain "route" idleConfig).toOption.map
        (·.requiresRequestHeader) = some true := by
  decide +kernel

end PolicyRegistry

end Xds

end ApiPlatform.PolicyEngine
