import ApiPlatform.Foundation.Fallible
import ApiPlatform.Controller.Llm.AccessControl

/-!
# Allowing all but the exceptions

In `allow_all` mode every exception gets an operation with the deny policy.  A
request under an exception is denied when the most specific operation that
matches it is such an operation.
-/

namespace ApiPlatform.Controller.Llm

open Foundation
open Controller.Api

variable {method path : String} {request : RequestPath} {exceptions : List RouteException}
  {key : PathMethodKey}

/-! ## The most specific operation -/

structure IsMostSpecific (operations : List Api.Operation) (method : String)
    (request : RequestPath) (operation : Api.Operation) : Prop where
  mem : operation ∈ operations
  method_eq : operation.effectiveMethod = method
  covers : Covers operation.effectivePath request
  maximal : ∀ other ∈ operations, other.effectiveMethod = method →
    Covers other.effectivePath request →
      isMoreSpecificPath other.effectivePath operation.effectivePath = false

/-- Literal paths before wildcard paths, then longer paths first. -/
def specificity (path : String) : ℕ ×ₗ ℕ :=
  toLex (if hasWildcard path then 0 else 1, len path)

theorem isMoreSpecificPath_iff (left right : String) :
    isMoreSpecificPath left right = true ↔ specificity right < specificity left := by
  unfold isMoreSpecificPath specificity
  rw [Prod.Lex.toLex_lt_toLex]
  cases hasWildcard left <;> cases hasWildcard right <;> simp

theorem exists_isMostSpecific {operations : List Api.Operation} {operation : Api.Operation}
    (hmem : operation ∈ operations) (hmethod : operation.effectiveMethod = method)
    (hcovers : Covers operation.effectivePath request) :
    ∃ best, IsMostSpecific operations method request best := by
  classical
  let candidates := operations.toFinset.filter fun candidate =>
    candidate.effectiveMethod = method ∧ Covers candidate.effectivePath request
  have hcandidate : operation ∈ candidates := by simp [candidates, hmem, hmethod, hcovers]
  obtain ⟨best, hbest, hmaximal⟩ := Finset.exists_max_image candidates
    (fun candidate => specificity candidate.effectivePath) ⟨operation, hcandidate⟩
  simp only [candidates, Finset.mem_filter, List.mem_toFinset] at hbest hmaximal
  refine ⟨best, hbest.1, hbest.2.1, hbest.2.2, fun other hother hotherMethod hotherCovers => ?_⟩
  rw [Bool.eq_false_iff, Ne, isMoreSpecificPath_iff, not_lt]
  exact hmaximal other ⟨hother, hotherMethod, hotherCovers⟩

def DeniesExceptions (version : String) (exceptions : List RouteException)
    (operations : List Api.Operation) : Prop :=
  ∀ method request,
    (∃ path, ⟨path, method⟩ ∈ exceptionKeys exceptions ∧ Covers path request) →
      (∃ operation, IsMostSpecific operations method request operation) ∧
        ∀ operation, IsMostSpecific operations method request operation →
          denyPolicy version ∈ operation.policies

/-- No operation is created inside a denied part: the catch-all path is not
under an exception, and no policy reaches a template resource under one. -/
structure DeniedPartsClosed (provider : LLMProviderConfigData)
    (template : LLMProviderTemplateData) : Prop where
  catchAll : ∀ method ∈ wildcardHTTPMethods,
    ⟨"*", method⟩ ∈ exceptionKeys provider.exceptions →
      ⟨"/*", method⟩ ∈ exceptionKeys provider.exceptions
  targets : ∀ attachment ∈ policyAttachments (collectOperationLevelLLMPolicies provider),
    ∀ method ∈ expandLLMPolicyMethods attachment.pathEntry.methods,
      isDeniedByException attachment.pathEntry.path method
          (exceptionKeys provider.exceptions) = false →
        ∀ target ∈ expandPolicyTargetPaths template attachment.pathEntry.path,
          target.toList.head? = some '/' →
            isDeniedByException target method (exceptionKeys provider.exceptions) = true →
              ⟨target, method⟩ ∉ exceptionKeys provider.exceptions →
                moreSpecificPolicyAttachmentCovers target method attachment = true

theorem isDeniedByException_iff {denied : List PathMethodKey} :
    isDeniedByException path method denied = true ↔
      ⟨path, method⟩ ∈ denied ∨
        ∃ exceptionPath, ⟨exceptionPath, method⟩ ∈ denied ∧
          underWildcard path exceptionPath = true := by
  unfold isDeniedByException
  rw [Bool.or_eq_true, List.contains_iff_mem, List.any_eq_true]
  refine or_congr_right ?_
  constructor
  · rintro ⟨key, hkey, hmatch⟩
    rw [Bool.and_eq_true, beq_iff_eq] at hmatch
    obtain ⟨rfl, hunder⟩ := hmatch
    exact ⟨key.path, hkey, hunder⟩
  · rintro ⟨exceptionPath, hkey, hunder⟩
    exact ⟨_, hkey, by simp [hunder]⟩

/-! ## Deny operations -/

theorem mem_denyRegistry {version : String} :
    key ∈ denyRegistry version exceptions ↔
      key ∈ exceptionKeys exceptions ∨ key ∈ catchAllRegistry := by
  unfold denyRegistry
  generalize exceptionKeys exceptions = keys
  generalize catchAllRegistry = registry
  induction keys generalizing registry with
  | nil => simp
  | cons first keys ih =>
    refine (ih _).trans ?_
    rw [mem_appendOperationPolicy, mem_ensureOperation, List.mem_cons]
    tauto

theorem mem_catchAllRegistry :
    key ∈ catchAllRegistry ↔ key.path = "/*" ∧ key.method ∈ wildcardHTTPMethods := by
  have hfold : catchAllRegistry =
      (wildcardHTTPMethods.map (PathMethodKey.mk "/*")).foldl
        (fun registry key => registry.insert key []) ∅ := by
    rfl
  rw [hfold, mem_foldl_insert, List.mem_map]
  constructor
  · rintro (⟨method, hmethod, rfl⟩ | hempty)
    · exact ⟨rfl, hmethod⟩
    · exact absurd hempty (AList.notMem_empty key)
  · rintro ⟨hpath, hmethod⟩
    exact .inl ⟨key.method, hmethod, by rw [← hpath]⟩

theorem policiesAt_catchAllRegistry (key : PathMethodKey) :
    policiesAt catchAllRegistry key = [] := by
  refine List.foldlRecOn
    (motive := fun registry : OperationRegistry => (registry.lookup key).getD [] = [])
    _ _ rfl fun registry hregistry method _ => ?_
  rw [lookup_insert_eq]
  split
  · rfl
  · exact hregistry

theorem policiesAt_denyRegistry_of_not_mem {version : String}
    (hkey : key ∉ exceptionKeys exceptions) :
    policiesAt (denyRegistry version exceptions) key = [] := by
  refine List.foldlRecOn (motive := fun registry => policiesAt registry key = [])
    _ _ (policiesAt_catchAllRegistry key) fun registry hregistry denied hdenied => ?_
  have hne : key ≠ denied := fun heq => hkey (heq ▸ hdenied)
  rw [policiesAt_appendOperationPolicy, if_neg hne, policiesAt_ensureOperation, hregistry]

theorem denyPolicy_mem_denyRegistry {version : String} (hkey : key ∈ exceptionKeys exceptions) :
    denyPolicy version ∈ policiesAt (denyRegistry version exceptions) key := by
  unfold denyRegistry
  obtain ⟨before, after, hsplit⟩ := List.append_of_mem hkey
  rw [hsplit, List.foldl_append, List.foldl_cons]
  refine ((extends_foldl after _ _ fun registry denied => ?_).policies key).mem ?_
  · exact (extends_ensureOperation registry denied).trans
      (extends_appendOperationPolicy _ denied _)
  · rw [policiesAt_appendOperationPolicy, if_pos rfl]
    exact List.mem_append_right _ List.mem_cons_self

/-! ## The whole registry -/

section Registry

variable {provider : LLMProviderConfigData} {template : LLMProviderTemplateData}
  {iteration : MapIteration PathMethodKey} {version : String}

theorem extends_denyRegistry_allowAllRegistry :
    Extends (denyRegistry version provider.exceptions)
      (allowAllRegistry version template iteration provider) :=
  (extends_registerExplicit _ _ _).trans (extends_attachJobs _ _)

/-- The path of the key is a template resource that a policy is not kept from. -/
def IsReachedTarget (provider : LLMProviderConfigData) (template : LLMProviderTemplateData)
    (key : PathMethodKey) : Prop :=
  ∃ attachment ∈ policyAttachments (collectOperationLevelLLMPolicies provider),
    key.method ∈ expandLLMPolicyMethods attachment.pathEntry.methods ∧
      isDeniedByException attachment.pathEntry.path key.method
          (exceptionKeys provider.exceptions) = false ∧
        key.path ∈ expandPolicyTargetPaths template attachment.pathEntry.path ∧
          moreSpecificPolicyAttachmentCovers key.path key.method attachment = false

def HasOrigin (provider : LLMProviderConfigData) (template : LLMProviderTemplateData)
    (key : PathMethodKey) : Prop :=
  IsPathPattern key.path ∧
    (key ∈ exceptionKeys provider.exceptions ∨ key ∈ catchAllRegistry ∨
      isDeniedByException key.path key.method (exceptionKeys provider.exceptions) = false ∨
        IsReachedTarget provider template key)

section

variable (hpaths : WellFormedPaths provider template)
include hpaths

theorem mem_targets_of_pathsMatch
    {opPath policyPath target : String} (hop : IsPathPattern opPath)
    (hpolicy : IsPathPattern policyPath) (hmatch : pathsMatch opPath policyPath = true)
    (htarget : target ∈ expandPolicyTargetPaths template opPath) :
    target = opPath ∨ target ∈ expandPolicyTargetPaths template policyPath := by
  have hpattern := isPathPattern_of_mem_targets hpaths hop htarget
  rcases mem_expandPolicyTargetPaths.mp htarget with
    heq | ⟨hwildcard, mapping, hmapping, hunder, selected, hselected, rfl, htargetMatch⟩
  · exact .inl heq
  · right
    have hpolicyWildcard : hasWildcard policyPath = true := by
      simp only [pathsMatch, Bool.or_eq_true, beq_iff_eq] at hmatch
      rcases hmatch with (rfl | rfl) | hunderPolicy
      · decide
      · exact hwildcard
      · exact ((underWildcard_iff _ _).mp hunderPolicy).1
    exact mem_expandPolicyTargetPaths.mpr (.inr ⟨hpolicyWildcard, mapping, hmapping,
      pathsMatch_trans hop hpolicy hunder hmatch, selected, hselected, rfl,
      pathsMatch_trans hop hpolicy htargetMatch hmatch⟩)

theorem hasOrigin_of_mem_allowAllRegistry :
    ∀ key ∈ allowAllRegistry version template iteration provider,
      HasOrigin provider template key := by
  refine attachPolicies_induction
    (fun registry => ∀ key ∈ registry, HasOrigin provider template key) ?_ ?_ ?_
  · intro key hkey
    rcases mem_registerExplicit.mp hkey with hkey | ⟨attachment, hattachment, method, -, hfree, rfl⟩
    · rcases mem_denyRegistry.mp hkey with hkey | hkey
      · exact ⟨isPathPattern_of_mem_exceptionKeys hpaths hkey, .inl hkey⟩
      · refine ⟨?_, .inr (.inl hkey)⟩
        rw [(mem_catchAllRegistry.mp hkey).1]
        decide
    · exact ⟨hpaths.policies attachment hattachment, .inr (.inr (.inl (by simpa using hfree)))⟩
  · intro current attachment key target hcurrent hturn other hother
    rcases mem_ensureOperation.mp hother with rfl | hother
    · have horigin := hcurrent key hturn.key_mem
      have hpolicy := hpaths.policies attachment hturn.attachment_mem
      rcases mem_targets_of_pathsMatch hpaths horigin.1 hpolicy hturn.matches_path
        hturn.target_mem with rfl | htarget
      · exact horigin
      · exact ⟨isPathPattern_of_mem_targets hpaths horigin.1 hturn.target_mem,
          .inr (.inr (.inr ⟨attachment, hturn.attachment_mem, hturn.method_mem,
            hturn.not_skipped, htarget, hturn.not_covered⟩))⟩
    · exact hcurrent other hother
  · intro current attachment key target hcurrent hturn other hother
    rcases mem_appendOperationPolicy.mp hother with rfl | hother
    · exact hcurrent _ (mem_ensureOperation.mpr (.inl rfl))
    · exact hcurrent other hother

theorem mem_exceptionKeys_of_catchAll
    (hclosed : DeniedPartsClosed provider template) (hmethod : method ∈ wildcardHTTPMethods)
    (hdenied : isDeniedByException "/*" method (exceptionKeys provider.exceptions) = true) :
    ⟨"/*", method⟩ ∈ exceptionKeys provider.exceptions := by
  rcases isDeniedByException_iff.mp hdenied with hmem | ⟨exceptionPath, hmem, hunder⟩
  · exact hmem
  · have hpattern : IsPathPattern exceptionPath := isPathPattern_of_mem_exceptionKeys hpaths hmem
    have hwildcard := ((underWildcard_iff _ _).mp hunder).1
    have hstart : wildcardStart exceptionPath <+: ['/'] :=
      wildcardStart_isPrefix (by decide) hpattern (by decide) hunder
    rcases List.prefix_cons_iff.mp hstart with hnil | ⟨rest, hslash, hrest⟩
    · have hstar : exceptionPath = "*" :=
        eq_of_wildcardStart_eq hpattern (by decide) hwildcard (by decide) hnil
      exact hclosed.catchAll method hmethod (hstar ▸ hmem)
    · rw [List.prefix_nil.mp hrest] at hslash
      have hroot : exceptionPath = "/*" :=
        eq_of_wildcardStart_eq hpattern (by decide) hwildcard (by decide) hslash
      exact hroot ▸ hmem

theorem mem_exceptionKeys_of_denied
    (hclosed : DeniedPartsClosed provider template)
    (hkey : key ∈ allowAllRegistry version template iteration provider)
    (hslash : key.path.toList.head? = some '/') (hdenied : isDeniedByException key.path key.method
      (exceptionKeys provider.exceptions) = true) : key ∈ exceptionKeys provider.exceptions := by
  obtain ⟨-, horigin⟩ := hasOrigin_of_mem_allowAllRegistry hpaths key hkey
  rcases horigin with hmem | hcatchAll | hfree | htarget
  · exact hmem
  · obtain ⟨path, method⟩ := key
    obtain ⟨rfl, hmethod⟩ := mem_catchAllRegistry.mp hcatchAll
    exact mem_exceptionKeys_of_catchAll hpaths hclosed hmethod hdenied
  · rw [hdenied] at hfree
    contradiction
  · obtain ⟨attachment, hattachment, hmethod, hfree, htarget, huncovered⟩ := htarget
    by_contra hnotMem
    have hcovered := hclosed.targets attachment hattachment key.method hmethod hfree key.path
      htarget hslash hdenied hnotMem
    rw [huncovered] at hcovered
    contradiction

end

end Registry

/-! ## Requests under an exception -/

section Requests

variable {provider : LLMProviderConfigData} {template : LLMProviderTemplateData}
  {iteration : MapIteration PathMethodKey} {version : String} {authPolicy : Option Api.Policy}
  {operations : List Api.Operation}

theorem slash_or_star_of_covers (hpattern : IsPathPattern path) (hcovers : Covers path request) :
    path.toList.head? = some '/' ∨ hasWildcard path = true ∧ wildcardStart path = [] := by
  rcases hcovers with heq | hunder
  · exact .inl (heq ▸ request.slash)
  · obtain ⟨hwildcard, hstarts⟩ := (underWildcard_iff _ _).mp hunder
    cases hstart : wildcardStart path with
    | nil => exact .inr ⟨hwildcard, rfl⟩
    | cons first rest =>
      rw [hstart] at hstarts
      have hslash := request.slash
      obtain ⟨after, hafter⟩ := hstarts
      rw [← hafter] at hslash
      rw [eq_append_of_hasWildcard hpattern hwildcard, hstart]
      simpa using hslash

theorem mem_exceptionKeys_of_mostSpecific (hpaths : WellFormedPaths provider template)
    (hclosed : DeniedPartsClosed provider template)
    (hkey : key ∈ allowAllRegistry version template iteration provider)
    (hexception : ⟨path, key.method⟩ ∈ exceptionKeys provider.exceptions)
    (hcovers : Covers path request) (hkeyCovers : Covers key.path request)
    (hspecific : isMoreSpecificPath path key.path = false) :
    key ∈ exceptionKeys provider.exceptions := by
  have hpattern : IsPathPattern path := isPathPattern_of_mem_exceptionKeys hpaths hexception
  have hkeyPattern := (hasOrigin_of_mem_allowAllRegistry hpaths key hkey).1
  rcases underWildcard_of_not_moreSpecific hpattern hkeyPattern hcovers hkeyCovers hspecific with
    heq | hunder
  · exact (show key = ⟨path, key.method⟩ from by rw [← heq]) ▸ hexception
  · rcases slash_or_star_of_covers hkeyPattern hkeyCovers with hslash | ⟨hwildcard, hstart⟩
    · exact mem_exceptionKeys_of_denied hpaths hclosed hkey hslash
        (isDeniedByException_iff.mpr (.inr ⟨path, hexception, hunder⟩))
    · -- the operation `*` lies under no other exception
      have hstarts := wildcardStart_isPrefix hkeyPattern hpattern hwildcard hunder
      rw [hstart, List.prefix_nil] at hstarts
      have heq : key.path = path := eq_of_wildcardStart_eq hkeyPattern hpattern hwildcard
        ((underWildcard_iff _ _).mp hunder).1 (hstart.trans hstarts.symm)
      exact (show key = ⟨path, key.method⟩ from by rw [← heq]) ▸ hexception

theorem deniesExceptions_of_closed (hpaths : WellFormedPaths provider template)
    (hclosed : DeniedPartsClosed provider template)
    (hgenerated : GeneratedFrom (allowAllRegistry version template iteration provider)
      authPolicy operations) : DeniesExceptions version provider.exceptions operations := by
  intro method request hcovered
  obtain ⟨path, hexception, hcovers⟩ := hcovered
  have hkey : ⟨path, method⟩ ∈ allowAllRegistry version template iteration provider :=
    extends_denyRegistry_allowAllRegistry.keys _ (mem_denyRegistry.mpr (.inl hexception))
  obtain ⟨denying, hdenying, hdenyingPath, hdenyingMethod, -⟩ := hgenerated.mem_of_key _ hkey
  refine ⟨exists_isMostSpecific hdenying hdenyingMethod (hdenyingPath ▸ hcovers), ?_⟩
  intro operation hoperation
  obtain ⟨key, hkeyMem, hkeyPath, hkeyMethod, hpolicies⟩ :=
    hgenerated.key_of_mem operation hoperation.mem
  have hmethod : key.method = method := hkeyMethod.symm.trans hoperation.method_eq
  have hspecific := hoperation.maximal denying hdenying hdenyingMethod (hdenyingPath ▸ hcovers)
  rw [hdenyingPath, hkeyPath] at hspecific
  have hdenied := mem_exceptionKeys_of_mostSpecific hpaths hclosed hkeyMem
    (hmethod ▸ hexception) hcovers (hkeyPath ▸ hoperation.covers) hspecific
  rw [hpolicies]
  exact List.mem_append_left _ ((extends_denyRegistry_allowAllRegistry.policies key).mem
    (denyPolicy_mem_denyRegistry hdenied))

end Requests

/-! ## Operations inside a denied part -/

section Bypass

variable {provider : LLMProviderConfigData} {template : LLMProviderTemplateData}
  {iteration : MapIteration PathMethodKey} {version : String} {authPolicy : Option Api.Policy}
  {operations : List Api.Operation}

abbrev LooksLikeDeny (version name policyVersion : String) : Prop :=
  name = accessControlDenyPolicyName ∧ policyVersion = version

/-- No operation policy of the provider has the name and version of the deny policy. -/
def NoDenyLookalike (version : String) (provider : LLMProviderConfigData) : Prop :=
  ∀ policy ∈ collectOperationLevelLLMPolicies provider,
    ¬ LooksLikeDeny version policy.name policy.version

instance (version : String) (provider : LLMProviderConfigData) :
    Decidable (NoDenyLookalike version provider) :=
  inferInstanceAs (Decidable (∀ policy ∈ collectOperationLevelLLMPolicies provider, ¬ _))

theorem policy_mem_of_mem_policyAttachments {policies : List OperationPolicy}
    {attachment : LLMPolicyAttachment} (hattachment : attachment ∈ policyAttachments policies) :
    attachment.policy ∈ policies := by
  obtain ⟨policy, hpolicy, hmap⟩ := List.mem_flatMap.mp hattachment
  obtain ⟨pathEntry, -, rfl⟩ := List.mem_map.mp hmap
  exact hpolicy

theorem not_looksLikeDeny_of_mem_allowAllRegistry (hfree : NoDenyLookalike version provider) :
    ∀ key ∉ exceptionKeys provider.exceptions,
      ∀ policy ∈ policiesAt (allowAllRegistry version template iteration provider) key,
        ¬ LooksLikeDeny version policy.name policy.version := by
  refine attachPolicies_induction
    (fun registry => ∀ key ∉ exceptionKeys provider.exceptions,
      ∀ policy ∈ policiesAt registry key,
        ¬ LooksLikeDeny version policy.name policy.version) ?_ ?_ ?_
  · intro key hkey policy hpolicy
    rw [policiesAt_registerExplicit, policiesAt_denyRegistry_of_not_mem hkey] at hpolicy
    exact absurd hpolicy List.not_mem_nil
  · intro current attachment key target hcurrent hturn other hother policy hpolicy
    rw [policiesAt_ensureOperation] at hpolicy
    exact hcurrent other hother policy hpolicy
  · intro current attachment key target hcurrent hturn other hother policy hpolicy
    rw [policiesAt_appendOperationPolicy] at hpolicy
    split at hpolicy
    · rename_i heq
      rcases List.mem_append.mp hpolicy with hpolicy | hpolicy
      · exact hcurrent _ (heq ▸ hother) policy hpolicy
      · rw [List.mem_singleton.mp hpolicy]
        exact hfree attachment.policy (policy_mem_of_mem_policyAttachments hturn.attachment_mem)
    · exact hcurrent other hother policy hpolicy

theorem monotoneGuards_allowAllGuards (denied : List PathMethodKey) :
    MonotoneGuards (allowAllGuards version denied) := by
  intro fewer more hstarts hhidden
  obtain ⟨rest, rfl⟩ := hstarts
  simp only [allowAllGuards, hasDenyPolicy, List.any_append, Bool.and_eq_true] at hhidden ⊢
  exact ⟨hhidden.1, by simp [hhidden.2]⟩

theorem hasDenyPolicy_eq_false {policies : List Api.Policy}
    (hpolicies : ∀ policy ∈ policies, ¬ LooksLikeDeny version policy.name policy.version) :
    hasDenyPolicy policies version = false := by
  rw [Bool.eq_false_iff]
  intro hdeny
  rw [hasDenyPolicy, Bool.and_eq_true, List.any_eq_true] at hdeny
  obtain ⟨-, policy, hpolicy, hlooks⟩ := hdeny
  exact hpolicies policy hpolicy (by simpa [LooksLikeDeny] using hlooks)

theorem mem_allowAllRegistry_of_isReachedTarget (hfree : NoDenyLookalike version provider)
    (hreached : IsReachedTarget provider template key) :
    key ∈ allowAllRegistry version template iteration provider := by
  obtain ⟨attachment, hattachment, hmethod, hallowed, htarget, huncovered⟩ := hreached
  have hregistered : ⟨attachment.pathEntry.path, key.method⟩ ∈
      registerExplicitLLMPolicyOperations (denyRegistry version provider.exceptions)
        (collectOperationLevelLLMPolicies provider) (fun path method =>
          !isDeniedByException path method (exceptionKeys provider.exceptions)) :=
    mem_registerExplicit.mpr
      (.inr ⟨attachment, hattachment, key.method, hmethod, by simp [hallowed], rfl⟩)
  have hnotDenied : ⟨attachment.pathEntry.path, key.method⟩ ∉
      exceptionKeys provider.exceptions := by
    intro hmem
    rw [isDeniedByException_iff.mpr (.inl hmem)] at hallowed
    contradiction
  have hvisible : hasDenyPolicy (policiesAt (allowAllRegistry version template iteration provider)
      ⟨attachment.pathEntry.path, key.method⟩) version = false :=
    hasDenyPolicy_eq_false (not_looksLikeDeny_of_mem_allowAllRegistry hfree _ hnotDenied)
  have hturn : TargetTurn (allowAllGuards version (exceptionKeys provider.exceptions)) template _ _
      attachment ⟨attachment.pathEntry.path, key.method⟩ key.path :=
    ⟨hattachment, hmethod, hallowed, hregistered, by simp [pathsMatch], htarget, huncovered⟩
  have hmem := mem_attachPolicies_of_target hturn (monotoneGuards_allowAllGuards _) hvisible
  exact hmem

theorem name_of_upstreamAuthPolicy {resolve : String → Option String}
    (hauth : upstreamAuthPolicy resolve provider = .ok authPolicy) :
    ∀ policy ∈ authPolicy.toList, policy.name = upstreamAuthApikeyPolicyName := by
  unfold upstreamAuthPolicy at hauth
  intro policy hpolicy
  split at hauth
  · cases hauth
    exact absurd hpolicy List.not_mem_nil
  · split_ifs at hauth
    · split at hauth
      · contradiction
      · cases hauth
        rw [Option.toList_some, List.mem_singleton] at hpolicy
        rw [hpolicy]
    · cases hauth
      exact absurd hpolicy List.not_mem_nil

theorem not_deniesExceptions_of_mem (hpaths : WellFormedPaths provider template)
    (hfree : NoDenyLookalike version provider)
    (hauth : ∀ policy ∈ authPolicy.toList, policy.name = upstreamAuthApikeyPolicyName)
    (hgenerated : GeneratedFrom (allowAllRegistry version template iteration provider)
      authPolicy operations) (key : PathMethodKey)
    (hkey : key ∈ allowAllRegistry version template iteration provider)
    (hslash : key.path.toList.head? = some '/') (hdenied : isDeniedByException key.path key.method
      (exceptionKeys provider.exceptions) = true)
    (hnotMem : key ∉ exceptionKeys provider.exceptions) :
    ¬ DeniesExceptions version provider.exceptions operations := by
  intro hdenies
  obtain ⟨operation, hoperation, hpath, hmethod, hpolicies⟩ := hgenerated.mem_of_key key hkey
  have hkeyPattern := (hasOrigin_of_mem_allowAllRegistry hpaths key hkey).1
  let request : RequestPath := ⟨key.path, hslash⟩
  have hcovered : ∃ path, ⟨path, key.method⟩ ∈ exceptionKeys provider.exceptions ∧
      Covers path request := by
    rcases isDeniedByException_iff.mp hdenied with hmem | ⟨path, hmem, hunder⟩
    · exact absurd hmem hnotMem
    · exact ⟨path, hmem, .inr hunder⟩
  have hbest : IsMostSpecific operations key.method request operation := by
    refine ⟨hoperation, hmethod, .inl hpath.symm, fun other hother _ hcovers => ?_⟩
    obtain ⟨otherKey, hotherKey, hotherPath, -, -⟩ := hgenerated.key_of_mem other hother
    rw [hpath]
    refine isMoreSpecificPath_of_matches_self ?_ hkeyPattern hcovers
    exact hotherPath ▸ (hasOrigin_of_mem_allowAllRegistry hpaths otherKey hotherKey).1
  have hdeny := (hdenies key.method request hcovered).2 operation hbest
  rw [hpolicies] at hdeny
  rcases List.mem_append.mp hdeny with hdeny | hdeny
  · exact not_looksLikeDeny_of_mem_allowAllRegistry hfree key hnotMem _ hdeny ⟨rfl, rfl⟩
  · have hname : accessControlDenyPolicyName = upstreamAuthApikeyPolicyName := hauth _ hdeny
    exact absurd hname (by decide)

theorem closed_of_deniesExceptions (hpaths : WellFormedPaths provider template)
    (hfree : NoDenyLookalike version provider)
    (hauth : ∀ policy ∈ authPolicy.toList, policy.name = upstreamAuthApikeyPolicyName)
    (hgenerated : GeneratedFrom (allowAllRegistry version template iteration provider)
      authPolicy operations) (hdenies : DeniesExceptions version provider.exceptions operations) :
    DeniedPartsClosed provider template := by
  constructor
  · intro method hmethod hstar
    by_contra hnotMem
    have hkey : ⟨"/*", method⟩ ∈ allowAllRegistry version template iteration provider :=
      extends_denyRegistry_allowAllRegistry.keys _
        (mem_denyRegistry.mpr (.inr (mem_catchAllRegistry.mpr ⟨rfl, hmethod⟩)))
    have hslash : "/*".toList.head? = some '/' := by decide
    have hunder : underWildcard "/*" "*" = true := by decide
    exact not_deniesExceptions_of_mem hpaths hfree hauth hgenerated ⟨"/*", method⟩ hkey hslash
      (isDeniedByException_iff.mpr (.inr ⟨"*", hstar, hunder⟩)) hnotMem hdenies
  · intro attachment hattachment method hmethod hallowed target htarget hslash hdenied hnotMem
    by_contra huncovered
    rw [Bool.not_eq_true] at huncovered
    have hreached : IsReachedTarget provider template ⟨target, method⟩ :=
      ⟨attachment, hattachment, hmethod, hallowed, htarget, huncovered⟩
    exact not_deniesExceptions_of_mem hpaths hfree hauth hgenerated ⟨target, method⟩
      (mem_allowAllRegistry_of_isReachedTarget hfree hreached) hslash hdenied hnotMem hdenies

end Bypass

/-- In `allow_all` mode, for every order of the map iterations, each request under
an exception meets the deny policy if no operation is created inside a denied
part.  The converse holds when no policy of the provider is taken for the deny policy. -/
theorem allowAll_denies_exceptions (resolve : String → Option String)
    (getTemplateByHandle : String → Option LLMProviderTemplateData)
    (iteration : MapIteration PathMethodKey) (provider : LLMProviderConfigData)
    (template : LLMProviderTemplateData) (spec : APIConfigData) (version : String)
    (hmode : provider.accessControlMode = "allow_all")
    (htemplate : getTemplateByHandle provider.template = some template)
    (hpaths : WellFormedPaths provider template)
    (hversion : denyPolicyVersion resolve provider = .ok version)
    (hok : transformProvider resolve getTemplateByHandle iteration provider = .ok spec) :
    (DeniedPartsClosed provider template →
        DeniesExceptions version provider.exceptions spec.operations) ∧
      (NoDenyLookalike version provider →
        DeniesExceptions version provider.exceptions spec.operations →
          DeniedPartsClosed provider template) := by
  obtain ⟨authPolicy, registry, denyOpKeys, hauth, hregistry, hoperations⟩ :=
    transformProvider_ok hok htemplate
  have hallowAll : registry = allowAllRegistry version template iteration provider := by
    simp only [accessControlRegistry, hmode, if_true, hversion, bind, Except.bind, pure,
      Except.pure, Except.ok.injEq, Prod.mk.injEq] at hregistry
    exact hregistry.1.symm
  have hgenerated := generatedFrom_of_eq hoperations
  rw [hallowAll] at hgenerated
  constructor
  · intro hclosed
    exact deniesExceptions_of_closed hpaths hclosed hgenerated
  · intro hfree hdenies
    exact closed_of_deniesExceptions hpaths hfree (name_of_upstreamAuthPolicy hauth) hgenerated
      hdenies

/-! ## One provider -/

theorem wellFormedPaths_admin (mode policyPath : String) (hpolicy : IsPathPattern policyPath) :
    WellFormedPaths (adminProvider mode policyPath) usersTemplate := by
  refine ⟨?_, ?_, by decide⟩
  · intro exception hexception
    rw [List.mem_singleton.mp hexception]
    decide
  · intro attachment hattachment
    rw [List.mem_singleton.mp hattachment]
    exact hpolicy

theorem allowAll_admin_denied :
    ∃ spec, transformAdmin "allow_all" "/chat" = .ok spec ∧
      DeniesExceptions "v1" (adminProvider "allow_all" "/chat").exceptions spec.operations := by
  obtain ⟨spec, hok⟩ := exists_ok_of_isOk
    (by decide +kernel : (transformAdmin "allow_all" "/chat").isOk = true)
  refine ⟨spec, hok, ?_⟩
  have htheorem := allowAll_denies_exceptions _ _ (storedOrder _)
    (adminProvider "allow_all" "/chat") usersTemplate spec "v1" rfl rfl
    (wellFormedPaths_admin _ _ (by decide)) rfl hok
  exact htheorem.1 ⟨by decide, by decide⟩

/-- The template resource `/admin/users` becomes an operation without policies
under the exception `/admin/*`, because a policy on `/*` reaches it. -/
theorem allowAll_admin_users_not_denied :
    ∃ spec, transformAdmin "allow_all" "/*" = .ok spec ∧
      spec.operations.map (fun operation => (operation.effectiveMethod, operation.effectivePath,
          operation.policies.map (·.name))) =
        [("GET", "/admin/users", []), ("GET", "/admin/*", ["respond"]), ("DELETE", "/*", []),
          ("GET", "/*", ["log"]), ("OPTIONS", "/*", []), ("PATCH", "/*", []), ("POST", "/*", []),
          ("PUT", "/*", [])] ∧
      ¬ DeniesExceptions "v1" (adminProvider "allow_all" "/*").exceptions spec.operations := by
  refine exists_ok_of_any (by decide +kernel) fun spec hok _ => ?_
  obtain ⟨authPolicy, registry, denyOpKeys, hauth, hregistry, hgenerated⟩ :=
    transformProvider_ok hok rfl
  cases hregistry
  exact not_deniesExceptions_of_mem (wellFormedPaths_admin _ _ (by decide)) (by decide)
    (name_of_upstreamAuthPolicy hauth) (generatedFrom_of_eq hgenerated)
    ⟨"/admin/users", "GET"⟩ (by decide +kernel) (by decide) (by decide) (by decide)

/-! ## Listed paths -/

/-- The paths from which the operations of the derived API are made. -/
def listedPaths (provider : LLMProviderConfigData) (template : LLMProviderTemplateData) :
    List String :=
  "/*" :: (provider.exceptions.map (·.path) ++
    ((policyAttachments (collectOperationLevelLLMPolicies provider)).map (·.pathEntry.path) ++
      template.resources.map (·.resource)))

/-- A listed path that covers the request matches only listed paths that cover it too. -/
def SoundPaths (provider : LLMProviderConfigData) (template : LLMProviderTemplateData)
    (request : RequestPath) : Prop :=
  ∀ path ∈ listedPaths provider template, Covers path request →
    ∀ pattern ∈ listedPaths provider template, pathsMatch path pattern = true →
      Covers pattern request

theorem soundPaths_of_wellFormed {provider : LLMProviderConfigData}
    {template : LLMProviderTemplateData} (hpaths : WellFormedPaths provider template)
    (request : RequestPath) : SoundPaths provider template request := by
  have hpattern : ∀ path ∈ listedPaths provider template, IsPathPattern path := by
    intro path hpath
    simp only [listedPaths, List.mem_cons, List.mem_append, List.mem_map] at hpath
    rcases hpath with rfl | ⟨exception, hmem, rfl⟩ | ⟨attachment, hmem, rfl⟩ | ⟨mapping, hmem, rfl⟩
    · decide
    · exact hpaths.exceptions exception hmem
    · exact hpaths.policies attachment hmem
    · exact hpaths.resources mapping hmem
  intro path hpath hcovers pattern hlisted hmatch
  exact covers_of_pathsMatch (hpattern path hpath) (hpattern pattern hlisted) hmatch hcovers

theorem soundPaths_admin :
    SoundPaths (adminProvider "allow_all" "/chat") usersTemplate ⟨"/chat", by decide⟩ :=
  soundPaths_of_wellFormed (wellFormedPaths_admin _ _ (by decide)) _

end ApiPlatform.Controller.Llm
