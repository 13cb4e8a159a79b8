import ApiPlatform.Operator.Definitions

/-!
# Routing of a compiled route

Where the requests of an operation go, and when these are the backends of its
own rule.
-/

namespace ApiPlatform.Operator

open Foundation

variable {block : List Operation} {count : Nat} {first : ResolvedBackendRef}

/-! ## Where requests go -/

def distribution (upstreams : List WeightedUpstream) : List (String × ℚ) :=
  upstreams.map fun upstream =>
    (upstream.url, (upstream.weight.getD 1 : ℚ) /
      (upstreams.map fun other => (other.weight.getD 1 : ℚ)).sum)

def APIConfigData.upstreamsNamed (spec : APIConfigData) (name : String) : List WeightedUpstream :=
  ((spec.upstreamDefinitions.find? (·.name = name)).map (·.upstreams)).getD []

def Policy.target : Policy → Option String
  | .dynamicEndpoint targetUpstream => some targetUpstream
  | _ => none

/-- The definition that the dynamic-endpoint policy names, or else the main upstream. -/
def APIConfigData.effectiveUpstreams (spec : APIConfigData) (op : Operation) :
    List WeightedUpstream :=
  match op.policies.findSome? Policy.target, spec.main with
  | some name, _ => spec.upstreamsNamed name
  | none, .ref name => spec.upstreamsNamed name
  | none, .url url => [{ url := url, weight := none }]

def operationCount (rule : HTTPRouteRule) : Nat :=
  (rule.matches.map fun m => (restAPIOperationMethodsForHTTPRouteMatch m).length).sum

def APIConfigData.operationsOfRule (spec : APIConfigData) (route : HTTPRoute) (ruleIdx : Nat) :
    List Operation :=
  let counts := route.rules.map operationCount
  (spec.operations.take (counts.take (ruleIdx + 1)).sum).drop (counts.take ruleIdx).sum

/-- The rule has backends, all of them are resolved, and it does not redirect. -/
structure Forwards (resolution : HTTPRouteBackendResolution) (ruleIdx : Nat)
    (rule : HTTPRouteRule) : Prop where
  backends : rule.backendRefs ≠ []
  resolved : (backendsForRule resolution ruleIdx).length = rule.backendRefs.length
  allOK : ∀ ref ∈ backendsForRule resolution ruleIdx, ref.ok = true
  noRedirect : rule.filters.any isRedirect = false

/-! ## Shares -/

theorem distribution_eq_iff {left right : List WeightedUpstream} (hright : right.length ≤ 1)
    (hweights : ∀ upstream ∈ left ++ right, upstream.weight.getD 1 ≠ 0) :
    distribution left = distribution right ↔ left.map (·.url) = right.map (·.url) := by
  have hurls : ∀ upstreams, (distribution upstreams).map (·.1) = upstreams.map (·.url) := by
    simp [distribution]
  refine ⟨fun heq => by rw [← hurls, heq, hurls], fun heq => ?_⟩
  have hlength : left.length = right.length := by simpa using congrArg List.length heq
  cases right with
  | nil =>
    obtain rfl := List.length_eq_zero_iff.mp hlength
    rfl
  | cons other rest =>
    obtain rfl : rest = [] := by simpa using hright
    obtain ⟨upstream, rfl⟩ := List.length_eq_one_iff.mp hlength
    have hleft : (upstream.weight.getD 1 : ℚ) ≠ 0 := by
      exact_mod_cast hweights upstream List.mem_cons_self
    have hother : (other.weight.getD 1 : ℚ) ≠ 0 := by
      exact_mod_cast hweights other (List.mem_append_right _ List.mem_cons_self)
    have hurl : upstream.url = other.url := by simpa using heq
    simp [distribution, hleft, hother, hurl]

theorem weightedUpstreams_weight {refs : List ResolvedBackendRef} :
    ∀ upstream ∈ weightedUpstreams refs, upstream.weight.getD 1 ≠ 0 := by
  intro upstream hmem
  obtain ⟨ref, -, hsome⟩ := List.mem_filterMap.mp hmem
  dsimp only at hsome
  split at hsome
  · cases hsome
  next hne =>
    obtain rfl := Option.some.inj hsome
    exact hne

/-! ## The rules -/

def firstWeighted (resolution : HTTPRouteBackendResolution) (count : Nat) : Option Nat :=
  (List.range count).find? fun ruleIdx => isWeightedRule (backendsForRule resolution ruleIdx)

structure IsBlock (resolution : HTTPRouteBackendResolution) (rule : HTTPRouteRule) (ruleIdx : Nat)
    (block : List Operation) : Prop where
  hasMatches : rule.matches ≠ []
  operations : ∃ extensions : List ExtensionPolicy,
    block = ruleOperations rule (extensions.map .extension ++ rule.filters.flatMap filterPolicies ++
      routingPolicies (definitionsAfter resolution (ruleIdx + 1)) ruleIdx rule
        (rule.filters.any isRedirect) (backendsForRule resolution ruleIdx))

structure CompiledTo (resolution : HTTPRouteBackendResolution) (count : Nat)
    (state : CompileState) :
    Prop where
  defsByName : state.defsByName = definitionsAfter resolution count
  mainUpstreamRef : state.mainUpstreamRef =
    (firstWeighted resolution count).map weightedDefinitionName

section Rules

variable {source : PolicySource} {resolution : HTTPRouteBackendResolution}

theorem firstWeighted_succ (count : Nat) :
    firstWeighted resolution (count + 1) = (firstWeighted resolution count).or
      (if isWeightedRule (backendsForRule resolution count) then some count else none) := by
  rw [firstWeighted, List.range_succ, List.find?_append, List.find?_singleton]
  rfl

theorem compileRule_ok {state next : CompileState} {rule : HTTPRouteRule} {ruleIdx : Nat}
    (hstate : CompiledTo resolution ruleIdx state)
    (hrun : compileRule source resolution state rule ruleIdx = .ok next) :
    CompiledTo resolution (ruleIdx + 1) next ∧
      ∃ block, IsBlock resolution rule ruleIdx block ∧ next.ops = state.ops ++ block := by
  obtain ⟨extensions, -, hrun⟩ := bind_eq_ok.mp hrun
  dsimp only at hrun
  split at hrun
  · cases hrun
  next hmatches =>
    obtain rfl := Except.ok.inj hrun
    rw [hstate.defsByName, ← definitionsAfter_succ]
    refine ⟨⟨rfl, ?_⟩, _, ⟨hmatches, extensions, rfl⟩, rfl⟩
    rw [firstWeighted_succ, hstate.mainUpstreamRef]
    cases firstWeighted resolution ruleIdx with
    | some earlier => rfl
    | none => split <;> rfl

theorem compileRules_ok {rules : List HTTPRouteRule} : ∀ {count : Nat} {state final : CompileState},
    CompiledTo resolution count state →
    (rules.zipIdx count).foldlM
      (fun state (rule, ruleIdx) => compileRule source resolution state rule ruleIdx) state =
        .ok final →
    CompiledTo resolution (count + rules.length) final ∧ ∃ blocks,
      List.Forall₂ (fun (rule, ruleIdx) block => IsBlock resolution rule ruleIdx block)
        (rules.zipIdx count) blocks ∧ final.ops = state.ops ++ blocks.flatten := by
  induction rules with
  | nil =>
    intro count state final hstate hrun
    obtain rfl := Except.ok.inj hrun
    exact ⟨hstate, [], .nil, by simp⟩
  | cons rule rest ih =>
    intro count state final hstate hrun
    obtain ⟨next, hrule, hrun⟩ := bind_eq_ok.mp hrun
    obtain ⟨hnext, block, hblock, hops⟩ := compileRule_ok hstate hrule
    obtain ⟨hfinal, blocks, hblocks, hrest⟩ := ih hnext hrun
    refine ⟨?_, block :: blocks, .cons hblock hblocks, ?_⟩
    · rwa [List.length_cons, Nat.add_comm rest.length, ← Nat.add_assoc]
    · rw [hrest, hops, List.append_assoc, List.flatten_cons]

theorem IsBlock.length_eq {rule : HTTPRouteRule} {ruleIdx : Nat}
    (hblock : IsBlock resolution rule ruleIdx block) : block.length = operationCount rule := by
  obtain ⟨extensions, rfl⟩ := hblock.operations
  simp [ruleOperations, operationCount, List.length_flatMap]

theorem IsBlock.ne_nil {rule : HTTPRouteRule} {ruleIdx : Nat}
    (hblock : IsBlock resolution rule ruleIdx block) : block ≠ [] := by
  obtain ⟨extensions, rfl⟩ := hblock.operations
  obtain ⟨first, rest, hmatches⟩ := List.exists_cons_of_ne_nil hblock.hasMatches
  rw [ruleOperations, hmatches]
  cases hmethod : first.method with
  | none => simp [restAPIOperationMethodsForHTTPRouteMatch, hmethod, allRESTAPIOperationMethods]
  | some method => simp [restAPIOperationMethodsForHTTPRouteMatch, hmethod]

theorem IsBlock.target_eq {rule : HTTPRouteRule} {ruleIdx : Nat}
    (hblock : IsBlock resolution rule ruleIdx block) {op : Operation} (hmem : op ∈ block) :
    op.policies.findSome? Policy.target =
      (routingPolicies (definitionsAfter resolution (ruleIdx + 1)) ruleIdx rule
        (rule.filters.any isRedirect) (backendsForRule resolution ruleIdx)).findSome?
          Policy.target := by
  obtain ⟨extensions, rfl⟩ := hblock.operations
  obtain ⟨m, -, hmem⟩ := List.mem_flatMap.mp hmem
  obtain ⟨method, -, rfl⟩ := List.mem_map.mp hmem
  have hextensions : (extensions.map Policy.extension).findSome? Policy.target = none :=
    List.findSome?_eq_none_iff.mpr fun policy hpolicy => by
      obtain ⟨_, -, rfl⟩ := List.mem_map.mp hpolicy
      rfl
  have hfilters : (rule.filters.flatMap filterPolicies).findSome? Policy.target = none := by
    refine List.findSome?_eq_none_iff.mpr fun policy hpolicy => ?_
    obtain ⟨filter, -, hpolicy⟩ := List.mem_flatMap.mp hpolicy
    unfold filterPolicies headerModifierPolicies redirectPolicyFromFilter at hpolicy
    split at hpolicy
    · simp only [List.mem_append, List.mem_ite_nil_left, List.mem_singleton] at hpolicy
      rcases hpolicy with (⟨-, rfl⟩ | ⟨-, rfl⟩) | ⟨-, rfl⟩ <;> rfl
    · obtain rfl := List.mem_singleton.mp hpolicy
      rfl
    · cases hpolicy
  rw [List.findSome?_append, List.findSome?_append, hextensions, hfilters]
  rfl

/-! ## Parameters -/

theorem resolvePolicy_target {policy resolved : Policy}
    (hrun : source.resolvePolicy policy = .ok resolved) : resolved.target = policy.target := by
  unfold PolicySource.resolvePolicy at hrun
  split at hrun
  · obtain ⟨params, -, hrun⟩ := bind_eq_ok.mp hrun
    obtain rfl := Except.ok.inj hrun
    rfl
  · obtain rfl := Except.ok.inj hrun
    rfl

theorem findSome?_target_eq {policies resolved : List Policy}
    (hpairs : List.Forall₂ (fun policy result => source.resolvePolicy policy = .ok result)
      policies resolved) : resolved.findSome? Policy.target = policies.findSome? Policy.target := by
  induction hpairs with
  | nil => rfl
  | cons hpolicy _ ih =>
    rw [List.findSome?_cons, List.findSome?_cons, resolvePolicy_target hpolicy, ih]

theorem resolveOperation_target {op resolved : Operation}
    (hrun : source.resolveOperation op = .ok resolved) :
    resolved.policies.findSome? Policy.target = op.policies.findSome? Policy.target := by
  obtain ⟨policies, hpolicies, hrun⟩ := bind_eq_ok.mp hrun
  obtain rfl := Except.ok.inj hrun
  exact findSome?_target_eq (forall₂_of_mapM hpolicies)

end Rules

/-! ## The compiled route -/

theorem definitionsAfter_name {resolution : HTTPRouteBackendResolution} {name : String}
    {definition : UpstreamDefinition}
    (hlookup : (definitionsAfter resolution count).lookup name = some definition) :
    definition.name = name := by
  rcases (isSome_lookup_definitionsAfter count name).mp (by rw [hlookup]; rfl) with
    ⟨ruleIdx, hlt, hweighted, rfl⟩ | ⟨ref, -, rfl⟩
  · rw [lookup_weighted hlt hweighted] at hlookup
    cases hlookup
    rfl
  · rw [lookup_service] at hlookup
    obtain ⟨first, hfirst, rfl⟩ := Option.map_eq_some_iff.mp hlookup
    have hname : first.definitionName = ref.definitionName := by simpa using List.find?_some hfirst
    exact hname

theorem find?_sortedDefinitions {resolution : HTTPRouteBackendResolution} (name : String) :
    (sortedDefinitions (definitionsAfter resolution count)).find? (·.name = name) =
      (definitionsAfter resolution count).lookup name := by
  have hmem : ∀ definition, definition ∈ sortedDefinitions (definitionsAfter resolution count) ↔
      (definitionsAfter resolution count).lookup definition.name = some definition := by
    intro definition
    rw [sortedDefinitions, List.mem_insertionSort, List.mem_map]
    constructor
    · rintro ⟨⟨key, value⟩, hentry, rfl⟩
      have hlookup := AList.mem_lookup_iff.mpr hentry
      rwa [definitionsAfter_name hlookup]
    · intro hlookup
      exact ⟨⟨definition.name, definition⟩, AList.mem_lookup_iff.mp hlookup, rfl⟩
  refine Option.ext fun definition => ?_
  rw [find?_eq_some_iff_of_unique, hmem, decide_eq_true_eq]
  · constructor
    · rintro ⟨hlookup, rfl⟩
      exact hlookup
    · intro hlookup
      obtain rfl := definitionsAfter_name hlookup
      exact ⟨hlookup, rfl⟩
  · intro item hitem other hother hfirst hsecond
    rw [hmem, of_decide_eq_true hfirst] at hitem
    rw [hmem, of_decide_eq_true hsecond, hitem] at hother
    exact Option.some.inj hother

structure Compiled (route : HTTPRoute) (resolution : HTTPRouteBackendResolution)
    (spec : APIConfigData) : Prop where
  upstreamsNamed : ∀ name, spec.upstreamsNamed name =
    (((definitionsAfter resolution route.rules.length).lookup name).map (·.upstreams)).getD []
  main : spec.main = match firstWeighted resolution route.rules.length with
    | some ruleIdx => .ref (weightedDefinitionName ruleIdx)
    | none => .url (if resolution.placeholderURL = "" then "http://127.0.0.1:1"
        else resolution.placeholderURL)
  ne_nil : ∀ ruleIdx rule, route.rules[ruleIdx]? = some rule →
    spec.operationsOfRule route ruleIdx ≠ []
  target_eq : ∀ ruleIdx rule, route.rules[ruleIdx]? = some rule →
    ∀ op ∈ spec.operationsOfRule route ruleIdx, op.policies.findSome? Policy.target =
      (routingPolicies (definitionsAfter resolution (ruleIdx + 1)) ruleIdx rule
        (rule.filters.any isRedirect) (backendsForRule resolution ruleIdx)).findSome?
          Policy.target

theorem mainUpstream_eq {state : CompileState} (placeholderURL : String) :
    mainUpstream state placeholderURL = match state.mainUpstreamRef with
      | some name => .ref name
      | none => .url (if placeholderURL = "" then "http://127.0.0.1:1" else placeholderURL) := by
  unfold mainUpstream
  cases state.mainUpstreamRef with
  | some name => rfl
  | none =>
    dsimp only
    split
    next name hkeys =>
      -- a single definition never needs the dynamic endpoint
      have hneeds : needsDynamicEndpoint state.defsByName = false := by
        simp [needsDynamicEndpoint, hkeys]
      rw [hneeds]
      rfl
    · rfl

theorem exists_block {source : PolicySource} {resolution : HTTPRouteBackendResolution}
    {rules : List HTTPRouteRule} {blocks : List (List Operation)} {operations : List Operation}
    (ruleIdx : Nat) (rule : HTTPRouteRule)
    (hblocks : List.Forall₂ (fun (rule, ruleIdx) block => IsBlock resolution rule ruleIdx block)
      rules.zipIdx blocks)
    (hoperations : blocks.flatten.mapM source.resolveOperation = .ok operations)
    (hrule : rules[ruleIdx]? = some rule) :
    ∃ block, IsBlock resolution rule ruleIdx block ∧
      List.Forall₂ (fun op result => source.resolveOperation op = .ok result) block
        ((operations.take ((rules.map operationCount).take (ruleIdx + 1)).sum).drop
          ((rules.map operationCount).take ruleIdx).sum) := by
  obtain ⟨hlength, hget⟩ := List.forall₂_iff_get.mp hblocks
  rw [List.length_zipIdx] at hlength
  have hblock : ∀ index (hindex : index < rules.length),
      IsBlock resolution rules[index] index (blocks.get ⟨index, hlength ▸ hindex⟩) := by
    intro index hindex
    simpa using hget index (by simpa using hindex) (hlength ▸ hindex)
  have hcounts : blocks.map List.length = rules.map operationCount := by
    refine List.ext_getElem (by simp [hlength]) fun index hleft hright => ?_
    rw [List.length_map] at hright
    simpa using (hblock index hright).length_eq
  obtain ⟨hindex, rfl⟩ := List.getElem?_eq_some_iff.mp hrule
  refine ⟨_, hblock ruleIdx hindex, ?_⟩
  have hpairs := List.forall₂_drop ((rules.map operationCount).take ruleIdx).sum
    (List.forall₂_take ((rules.map operationCount).take (ruleIdx + 1)).sum
      (forall₂_of_mapM hoperations))
  rw [← hcounts, List.drop_take_succ_flatten_eq_getElem blocks ruleIdx (hlength ▸ hindex)] at hpairs
  rw [← hcounts]
  exact hpairs

theorem buildAPIConfigFromHTTPRoute_compiled {c : Client} {source : PolicySource}
    {parentGW : Option Gateway} {route : HTTPRoute} {parentTargets : List ParentReference}
    {clusterDomain : String} {spec : APIConfigData} {resolution : HTTPRouteBackendResolution}
    (hresolution : resolveHTTPRouteBackendRefs c route clusterDomain = .ok resolution)
    (hspec : buildAPIConfigFromHTTPRoute c source parentGW route parentTargets clusterDomain =
      .ok spec) : Compiled route resolution spec := by
  unfold buildAPIConfigFromHTTPRoute at hspec
  split at hspec
  · cases hspec
  obtain ⟨resolution', hresolution', hspec⟩ := bind_eq_ok.mp hspec
  obtain rfl := Except.ok.inj (hresolution'.symm.trans hresolution)
  obtain ⟨vhosts, -, hspec⟩ := bind_eq_ok.mp hspec
  obtain ⟨state, hstate, hspec⟩ := bind_eq_ok.mp hspec
  split at hspec
  · cases hspec
  obtain ⟨apiPolicies, -, hspec⟩ := bind_eq_ok.mp hspec
  obtain ⟨resolvedAPIPolicies, -, hspec⟩ := bind_eq_ok.mp hspec
  obtain ⟨operations, hoperations, hspec⟩ := bind_eq_ok.mp hspec
  obtain rfl := Except.ok.inj hspec
  have hstart : CompiledTo resolution' 0 { defsByName := ∅, ops := [], mainUpstreamRef := none } :=
    ⟨rfl, rfl⟩
  obtain ⟨hcompiled, blocks, hblocks, hops⟩ := compileRules_ok hstart hstate
  rw [Nat.zero_add] at hcompiled
  rw [hops, List.nil_append] at hoperations
  have hslice := fun ruleIdx rule => exists_block ruleIdx rule hblocks hoperations
  refine ⟨fun name => ?_, ?_, fun ruleIdx rule hrule => ?_, fun ruleIdx rule hrule op hop => ?_⟩
  · rw [APIConfigData.upstreamsNamed, hcompiled.defsByName, find?_sortedDefinitions]
  · dsimp only
    rw [mainUpstream_eq, hcompiled.mainUpstreamRef]
    cases firstWeighted resolution' route.rules.length <;> rfl
  · obtain ⟨block, hblock, hpairs⟩ := hslice ruleIdx rule hrule
    intro hnil
    have hlength := hpairs.length_eq.trans (congrArg List.length hnil)
    exact hblock.ne_nil (List.length_eq_zero_iff.mp hlength)
  · obtain ⟨block, hblock, hpairs⟩ := hslice ruleIdx rule hrule
    obtain ⟨before, hbefore, hresolved⟩ := exists_of_mem_forall₂ hpairs hop
    rw [resolveOperation_target hresolved, hblock.target_eq hbefore]

/-! ## Rules with one backend -/

def namedBackend (resolution : HTTPRouteBackendResolution) (ruleIdx : Nat)
    (ref : ResolvedBackendRef) : Option ResolvedBackendRef :=
  (serviceRefs resolution (ruleIdx + 1)).find? (·.definitionName = ref.definitionName)

/-- The requests of a rule reach its only backend: no other backend took its name, and where the
operations carry no policy there is no weighted rule whose definition became the main upstream. -/
structure ReachesOwnBackend (resolution : HTTPRouteBackendResolution) (count ruleIdx : Nat)
    (ref : ResolvedBackendRef) : Prop where
  named : (LeadsAlone resolution ruleIdx ref → firstWeighted resolution count = none) →
    ref.weight.getD 1 ≠ 0 ∧ (namedBackend resolution ruleIdx ref).map (·.url) = some ref.url
  weightedMain : LeadsAlone resolution ruleIdx ref →
    ∀ other, firstWeighted resolution count = some other →
      (weightedUpstreams (backendsForRule resolution other)).map (·.url) =
        (weightedUpstreams [ref]).map (·.url)

section OneBackend

variable {route : HTTPRoute} {resolution : HTTPRouteBackendResolution} {ruleIdx : Nat}
  {rule : HTTPRouteRule} {ref : ResolvedBackendRef}

theorem serviceRefs_prefix (resolution : HTTPRouteBackendResolution) (hle : ruleIdx ≤ count) :
    serviceRefs resolution ruleIdx <+: serviceRefs resolution count := by
  obtain ⟨more, rfl⟩ := Nat.exists_eq_add_of_le hle
  rw [serviceRefs, serviceRefs, List.range_add, List.flatMap_append]
  exact List.prefix_append _ _

theorem Forwards.mem_serviceRefs (hforwards : Forwards resolution ruleIdx rule)
    (hrefs : backendsForRule resolution ruleIdx = [ref]) :
    ref ∈ serviceRefs resolution (ruleIdx + 1) := by
  have hok : ref.ok = true := hforwards.allOK ref (by rw [hrefs]; exact List.mem_cons_self)
  rw [serviceRefs_succ, hrefs]
  simp [isWeightedRule, hok]

theorem namedBackend_isSome (hmem : ref ∈ serviceRefs resolution (ruleIdx + 1)) :
    ∃ first, namedBackend resolution ruleIdx ref = some first :=
  Option.isSome_iff_exists.mp (List.find?_isSome.mpr ⟨ref, hmem, by simp⟩)

theorem lookup_namedBackend (hlt : ruleIdx < count)
    (hfirst : namedBackend resolution ruleIdx ref = some first) :
    (definitionsAfter resolution count).lookup ref.definitionName =
      some (serviceDefinition first) := by
  obtain ⟨later, hlater⟩ := serviceRefs_prefix resolution (Nat.succ_le_of_lt hlt)
  rw [lookup_service, ← hlater, List.find?_append]
  rw [namedBackend] at hfirst
  rw [hfirst]
  rfl

/-- Without weighted rules the placeholder is the first backend, which gave the name when all
definitions up to the rule have that name. -/
theorem placeholder_eq (hresolves : Resolves route resolution.refs)
    (hlt : ruleIdx < route.rules.length) (halone : LeadsAlone resolution ruleIdx ref)
    (hnone : firstWeighted resolution route.rules.length = none)
    (hfirst : namedBackend resolution ruleIdx ref = some first) :
    resolution.refs.find? (·.ok) = some first := by
  have hunweighted : ∀ index < route.rules.length,
      isWeightedRule (backendsForRule resolution index) = false := by
    intro index hindex
    simpa using List.find?_eq_none.mp hnone index (List.mem_range.mpr hindex)
  have hall : serviceRefs resolution route.rules.length = resolution.refs.filter (·.ok) := by
    conv_rhs => rw [← grouped_range hresolves.sorted hresolves.inRules, grouped]
    rw [List.filter_flatMap, serviceRefs]
    refine List.flatMap_congr fun index hindex => ?_
    rw [hunweighted index (List.mem_range.mp hindex)]
    rfl
  have hhead : (serviceRefs resolution (ruleIdx + 1)).head? = some first := by
    rw [← hfirst, namedBackend, ← List.head?_filter, List.filter_eq_self.mpr]
    exact fun other hother => by simpa using halone.sameName other hother
  obtain ⟨later, hlater⟩ := serviceRefs_prefix resolution (Nat.succ_le_of_lt hlt)
  rw [← List.head?_filter, ← hall, ← hlater, List.head?_append, hhead]
  rfl

theorem Forwards.target_weighted (hforwards : Forwards resolution ruleIdx rule)
    (hweighted : isWeightedRule (backendsForRule resolution ruleIdx) = true) (defs : Definitions) :
    routingPolicies defs ruleIdx rule (rule.filters.any isRedirect)
      (backendsForRule resolution ruleIdx) =
        [.dynamicEndpoint (weightedDefinitionName ruleIdx)] := by
  have hresolved : ruleHasUnresolvedBackends (backendsForRule resolution ruleIdx) = false := by
    simpa [ruleHasUnresolvedBackends] using hforwards.allOK
  simp [routingPolicies, hforwards.noRedirect, hresolved, ruleHasBackendRefs, hforwards.backends,
    hweighted]

theorem Forwards.target_single (hforwards : Forwards resolution ruleIdx rule)
    (hrefs : backendsForRule resolution ruleIdx = [ref]) (defs : Definitions) :
    routingPolicies defs ruleIdx rule (rule.filters.any isRedirect)
      (backendsForRule resolution ruleIdx) =
        if needsDynamicEndpoint defs then [.dynamicEndpoint ref.definitionName] else [] := by
  have hok : ref.ok = true := hforwards.allOK ref (by rw [hrefs]; exact List.mem_cons_self)
  rw [hrefs]
  simp [routingPolicies, hforwards.noRedirect, ruleHasUnresolvedBackends, ruleHasBackendRefs,
    hforwards.backends, isWeightedRule, hok]

theorem Forwards.single_or_weighted (hforwards : Forwards resolution ruleIdx rule) :
    (∃ ref, backendsForRule resolution ruleIdx = [ref]) ∨
      isWeightedRule (backendsForRule resolution ruleIdx) = true := by
  have hpos : 0 < (backendsForRule resolution ruleIdx).length := by
    rw [hforwards.resolved]
    exact List.length_pos_of_ne_nil hforwards.backends
  rcases Nat.lt_or_eq_of_le (Nat.succ_le_of_lt hpos) with hmany | hone
  · right
    have hne : backendsForRule resolution ruleIdx ≠ [] := List.ne_nil_of_length_pos hpos
    have hok := hforwards.allOK
    simpa [isWeightedRule, allRuleBackendsResolved, hne, hmany] using hok
  · exact .inl (List.length_eq_one_iff.mp hone.symm)

variable {spec : APIConfigData} {op : Operation}

section

variable (hcompiled : Compiled route resolution spec)
  (hrule : route.rules[ruleIdx]? = some rule) (hforwards : Forwards resolution ruleIdx rule)
  (hop : op ∈ spec.operationsOfRule route ruleIdx)
include hcompiled hrule hforwards hop

theorem effective_weighted
    (hweighted : isWeightedRule (backendsForRule resolution ruleIdx) = true) :
    spec.effectiveUpstreams op = weightedUpstreams (backendsForRule resolution ruleIdx) := by
  have htarget := hcompiled.target_eq ruleIdx rule hrule op hop
  rw [hforwards.target_weighted hweighted] at htarget
  have hlt := (List.getElem?_eq_some_iff.mp hrule).1
  rw [APIConfigData.effectiveUpstreams, htarget]
  show spec.upstreamsNamed _ = _
  rw [hcompiled.upstreamsNamed, lookup_weighted hlt hweighted]
  rfl

variable (hrefs : backendsForRule resolution ruleIdx = [ref])
include hrefs

theorem effective_named
    (hresolves : Resolves route resolution.refs)
    (hplaceholder : resolution.placeholderURL =
      ((resolution.refs.find? (·.ok)).map (·.url)).getD "")
    (hfallback : LeadsAlone resolution ruleIdx ref →
      firstWeighted resolution route.rules.length = none)
    (hfirst : namedBackend resolution ruleIdx ref = some first) :
    spec.effectiveUpstreams op = [{ url := first.url, weight := none }] := by
  have htarget := hcompiled.target_eq ruleIdx rule hrule op hop
  rw [hforwards.target_single hrefs] at htarget
  have hlt := (List.getElem?_eq_some_iff.mp hrule).1
  have hneeds := needsDynamicEndpoint_iff (hforwards.mem_serviceRefs hrefs)
  cases hcase : needsDynamicEndpoint (definitionsAfter resolution (ruleIdx + 1)) with
  | true =>
    rw [hcase] at htarget
    rw [APIConfigData.effectiveUpstreams, htarget]
    show spec.upstreamsNamed _ = _
    rw [hcompiled.upstreamsNamed, lookup_namedBackend hlt hfirst]
    rfl
  | false =>
    rw [hcase] at htarget
    have halone := hneeds.mp hcase
    have hnone := hfallback halone
    have hfind := placeholder_eq hresolves hlt halone hnone hfirst
    have hurl : first.url ≠ "" :=
      hresolves.url_ne first (List.mem_of_find?_eq_some hfind) (List.find?_some hfind)
    have hmain := hcompiled.main
    rw [hnone, hplaceholder, hfind] at hmain
    rw [APIConfigData.effectiveUpstreams, htarget, hmain]
    simp [hurl]

theorem effective_weightedMain (halone : LeadsAlone resolution ruleIdx ref) {other : Nat}
    (hother : firstWeighted resolution route.rules.length = some other) :
    spec.effectiveUpstreams op = weightedUpstreams (backendsForRule resolution other) := by
  have htarget := hcompiled.target_eq ruleIdx rule hrule op hop
  rw [hforwards.target_single hrefs,
    (needsDynamicEndpoint_iff (hforwards.mem_serviceRefs hrefs)).mpr halone] at htarget
  have hmain := hcompiled.main
  rw [hother] at hmain
  have hlt : other < route.rules.length := List.mem_range.mp (List.mem_of_find?_eq_some hother)
  have hweighted : isWeightedRule (backendsForRule resolution other) = true := by
    simpa using List.find?_some hother
  rw [APIConfigData.effectiveUpstreams, htarget, hmain]
  show spec.upstreamsNamed _ = _
  rw [hcompiled.upstreamsNamed, lookup_weighted hlt hweighted]
  rfl

theorem distribution_single_iff
    (hresolves : Resolves route resolution.refs)
    (hplaceholder : resolution.placeholderURL =
      ((resolution.refs.find? (·.ok)).map (·.url)).getD "") :
    distribution (spec.effectiveUpstreams op) = distribution (weightedUpstreams [ref]) ↔
      ReachesOwnBackend resolution route.rules.length ruleIdx ref := by
  have hlength : (weightedUpstreams [ref]).length ≤ 1 := List.length_filterMap_le _ _
  by_cases hfallback : LeadsAlone resolution ruleIdx ref →
      firstWeighted resolution route.rules.length = none
  · obtain ⟨first, hfirst⟩ := namedBackend_isSome (hforwards.mem_serviceRefs hrefs)
    rw [effective_named hcompiled hrule hforwards hop hrefs hresolves hplaceholder hfallback hfirst,
      distribution_eq_iff hlength]
    · have hnamed : [first.url] = (weightedUpstreams [ref]).map (·.url) ↔
          ref.weight.getD 1 ≠ 0 ∧
            (namedBackend resolution ruleIdx ref).map (·.url) = some ref.url := by
        by_cases hweight : ref.weight.getD 1 = 0 <;> simp [weightedUpstreams, hweight, hfirst]
      refine hnamed.trans ⟨fun hreach => ⟨fun _ => hreach, fun halone other hother => ?_⟩,
        fun hreach => hreach.named hfallback⟩
      rw [hfallback halone] at hother
      cases hother
    · intro upstream hmem
      rcases List.mem_append.mp hmem with hmem | hmem
      · rw [List.mem_singleton.mp hmem]
        exact one_ne_zero
      · exact weightedUpstreams_weight upstream hmem
  · obtain ⟨halone, hsome⟩ := Classical.not_imp.mp hfallback
    obtain ⟨other, hother⟩ := Option.ne_none_iff_exists'.mp hsome
    rw [effective_weightedMain hcompiled hrule hforwards hop hrefs halone hother,
      distribution_eq_iff hlength]
    · exact ⟨fun hurls => ⟨fun hcontra => absurd (hcontra halone) hsome,
          fun _ index hindex => Option.some.inj (hother.symm.trans hindex) ▸ hurls⟩,
        fun hreach => hreach.weightedMain halone other hother⟩
    · intro upstream hmem
      rcases List.mem_append.mp hmem with hmem | hmem <;>
        exact weightedUpstreams_weight upstream hmem

end

end OneBackend

/-! ## Every rule -/

/-- The operations of all rules reach exactly their own backends if and only if every rule with a
single backend does. -/
theorem distribution_iff_reachesOwnBackend {c : Client} {source : PolicySource}
    {parentGW : Option Gateway} {route : HTTPRoute} {parentTargets : List ParentReference}
    {clusterDomain : String} {spec : APIConfigData} {resolution : HTTPRouteBackendResolution}
    (hresolution : resolveHTTPRouteBackendRefs c route clusterDomain = .ok resolution)
    (hspec : buildAPIConfigFromHTTPRoute c source parentGW route parentTargets clusterDomain =
      .ok spec) :
    (∀ ruleIdx rule, route.rules[ruleIdx]? = some rule → Forwards resolution ruleIdx rule →
      ∀ op ∈ spec.operationsOfRule route ruleIdx,
        distribution (spec.effectiveUpstreams op) =
          distribution (weightedUpstreams (backendsForRule resolution ruleIdx))) ↔
    ∀ ruleIdx rule, route.rules[ruleIdx]? = some rule → Forwards resolution ruleIdx rule →
      ∀ ref, backendsForRule resolution ruleIdx = [ref] →
        ReachesOwnBackend resolution route.rules.length ruleIdx ref := by
  have hcompiled := buildAPIConfigFromHTTPRoute_compiled hresolution hspec
  obtain ⟨hresolves, hplaceholder⟩ := resolveHTTPRouteBackendRefs_ok hresolution
  constructor
  · intro hall ruleIdx rule hrule hforwards ref hrefs
    obtain ⟨op, hop⟩ := List.exists_mem_of_ne_nil _ (hcompiled.ne_nil ruleIdx rule hrule)
    have hown := hall ruleIdx rule hrule hforwards op hop
    rw [hrefs] at hown
    exact (distribution_single_iff hcompiled hrule hforwards hop hrefs hresolves hplaceholder).mp
      hown
  · intro hreach ruleIdx rule hrule hforwards op hop
    rcases hforwards.single_or_weighted with ⟨ref, hrefs⟩ | hweighted
    · rw [hrefs]
      exact (distribution_single_iff hcompiled hrule hforwards hop hrefs hresolves hplaceholder).mpr
        (hreach ruleIdx rule hrule hforwards ref hrefs)
    · rw [effective_weighted hcompiled hrule hforwards hop hweighted]

/-! ## A route with a single and a weighted rule -/

def sampleRule (path : String) (services : List String) : HTTPRouteRule :=
  { «matches» := [{ path := some { type := some .exact, value := some path }, headers := []
                    method := some "GET" }]
    filters := []
    backendRefs := services.map fun name =>
      { group := none, kind := none, ns := none, name := name, port := some 80, weight := none } }

def sampleRoute (rules : List HTTPRouteRule) : HTTPRoute :=
  { name := "shop", ns := "default", annotations := ∅, hostnames := [], rules := rules }

def sampleCluster : Client :=
  { listNamespaces := .ok ["default"]
    listReferenceGrants := fun _ => .ok []
    getService := fun _ _ =>
      .ok (some { clusterIP := "10.0.0.1", ports := [{ port := 80, targetPort := .int 8080 }] }) }

def noPolicies : PolicySource :=
  { extensionPolicies := fun _ _ => .ok [], apiPolicies := .ok [], resolveValueFrom := .ok }

def sampleURL (name : String) : String :=
  "http://" ++ name ++ ".default.svc.cluster.local:80"

def sampleRef (ruleIdx backendIdx : Nat) (name : String) : ResolvedBackendRef :=
  { ruleIndex := ruleIdx, backendIndex := backendIdx, serviceNS := "default", serviceName := name
    port := 80, url := sampleURL name, weight := none, ok := true, reason := none, message := "" }

def sampleOperation (path : String) (policies : List Policy) : Operation :=
  { method := "GET", path := path, pathType := .exact, headers := [], policies := policies }

def sampleWeighted (ruleIdx : Nat) : UpstreamDefinition :=
  { name := weightedDefinitionName ruleIdx
    upstreams := ["list", "search"].map fun name => { url := sampleURL name, weight := some 1 } }

def sampleSpec (operations : List Operation) (weighted : Nat) : APIConfigData :=
  { context := "/", displayName := "shop", operations := operations
    main := .ref (weightedDefinitionName weighted), version := "v1.0", policies := []
    upstreamDefinitions := [
      { name := "default-cart-80", upstreams := [{ url := sampleURL "cart", weight := none }] },
      sampleWeighted weighted]
    vhosts := none }

def singleFirst : HTTPRoute :=
  sampleRoute [sampleRule "/cart" ["cart"], sampleRule "/items" ["list", "search"]]

def singleFirstResolution : HTTPRouteBackendResolution :=
  { refs := [sampleRef 0 0 "cart", sampleRef 1 0 "list", sampleRef 1 1 "search"]
    placeholderURL := sampleURL "cart" }

def singleFirstSpec : APIConfigData :=
  sampleSpec [sampleOperation "/cart" [],
    sampleOperation "/items" [.dynamicEndpoint (weightedDefinitionName 1)]] 1

/-- Requests for the cart go to the two backends of the other rule. -/
theorem singleFirst_misrouted :
    resolveHTTPRouteBackendRefs sampleCluster singleFirst "" = .ok singleFirstResolution ∧
      buildAPIConfigFromHTTPRoute sampleCluster noPolicies none singleFirst [] "" =
        .ok singleFirstSpec ∧
      Forwards singleFirstResolution 0 (sampleRule "/cart" ["cart"]) ∧
      backendsForRule singleFirstResolution 0 = [sampleRef 0 0 "cart"] ∧
      sampleOperation "/cart" [] ∈ singleFirstSpec.operationsOfRule singleFirst 0 ∧
      (singleFirstSpec.effectiveUpstreams (sampleOperation "/cart" [])).map (·.url) =
        [sampleURL "list", sampleURL "search"] ∧
      distribution (singleFirstSpec.effectiveUpstreams (sampleOperation "/cart" [])) ≠
        distribution (weightedUpstreams (backendsForRule singleFirstResolution 0)) := by
  refine ⟨by decide +kernel, by decide +kernel, ⟨by decide, by decide, by decide, by decide⟩,
    by decide, by decide +kernel, by decide +kernel, fun heq => ?_⟩
  have hlength : (distribution (singleFirstSpec.effectiveUpstreams
      (sampleOperation "/cart" []))).length = 2 := by decide +kernel
  rw [heq] at hlength
  revert hlength
  decide +kernel

def singleLast : HTTPRoute :=
  sampleRoute [sampleRule "/items" ["list", "search"], sampleRule "/cart" ["cart"]]

def singleLastResolution : HTTPRouteBackendResolution :=
  { refs := [sampleRef 0 0 "list", sampleRef 0 1 "search", sampleRef 1 0 "cart"]
    placeholderURL := sampleURL "list" }

def singleLastSpec : APIConfigData :=
  sampleSpec [sampleOperation "/items" [.dynamicEndpoint (weightedDefinitionName 0)],
    sampleOperation "/cart" [.dynamicEndpoint "default-cart-80"]] 0

theorem singleLast_reaches : ReachesOwnBackend singleLastResolution 2 1 (sampleRef 1 0 "cart") := by
  have hnotAlone : ¬ LeadsAlone singleLastResolution 1 (sampleRef 1 0 "cart") := by
    intro halone
    exact absurd (halone.unweighted 0 (by decide)) (by decide)
  refine ⟨fun _ => ⟨by decide, by decide +kernel⟩, fun halone => absurd halone hnotAlone⟩

theorem singleLast_routed :
    buildAPIConfigFromHTTPRoute sampleCluster noPolicies none singleLast [] "" =
        .ok singleLastSpec ∧
      ∀ ruleIdx rule, singleLast.rules[ruleIdx]? = some rule →
        Forwards singleLastResolution ruleIdx rule →
        ∀ op ∈ singleLastSpec.operationsOfRule singleLast ruleIdx,
          distribution (singleLastSpec.effectiveUpstreams op) =
            distribution (weightedUpstreams (backendsForRule singleLastResolution ruleIdx)) := by
  have hresolution : resolveHTTPRouteBackendRefs sampleCluster singleLast "" =
      .ok singleLastResolution := by decide +kernel
  have hspec : buildAPIConfigFromHTTPRoute sampleCluster noPolicies none singleLast [] "" =
      .ok singleLastSpec := by decide +kernel
  refine ⟨hspec, (distribution_iff_reachesOwnBackend hresolution hspec).mpr ?_⟩
  intro ruleIdx rule hrule _ ref hrefs
  have hlt : ruleIdx < 2 := (List.getElem?_eq_some_iff.mp hrule).1
  interval_cases ruleIdx
  · have htwo : (backendsForRule singleLastResolution 0).length = 2 := by decide
    rw [hrefs] at htwo
    cases htwo
  · have hsingle : backendsForRule singleLastResolution 1 = [sampleRef 1 0 "cart"] := by decide
    obtain rfl := List.singleton_inj.mp (hsingle.symm.trans hrefs)
    exact singleLast_reaches

end ApiPlatform.Operator
