import ApiPlatform.Foundation.Selection
import ApiPlatform.PlatformApi.LlmDeployment

/-!
# The limits of a generated deployment

What the policies of a generated deployment enforce, compared with the limits
that the configuration enables.  A path is added to a policy once, so that of
several entries for a resource the first one with an enabled limit counts; for
consumers the default of the resource-wise limits is not looked at.
-/

namespace ApiPlatform.PlatformApi

open Foundation

variable {who : String} {resources : List RateLimitingResourceLimit} {config : LLMProviderConfig}

variable {limits : RateLimitingLimitConfig}

/-! ## The limits that policies enforce -/

structure EmittedLimit where
  scope : LimitScope
  kind : LimitKind
  count : Rat
  window : String
  path : String
  deriving DecidableEq

def EmittedLimit.key (limit : EmittedLimit) : LimitKind × String :=
  (limit.kind, limit.path)

/-- A policy enforces a limit when its parameters are the ones that its name stands for. -/
def readLimit (name path : String) : PolicyParams → Option EmittedLimit
  | .totalTokenLimits count duration consumerBased =>
    if name = tokenBasedRateLimitPolicyName then
      some ⟨if consumerBased then .consumer else .provider, .token, count, duration, path⟩
    else none
  | .limits requests duration =>
    if name = basicRateLimitPolicyName then
      some ⟨.provider, .request, requests, duration, path⟩
    else none
  | .budgetLimits amount duration consumerBased =>
    if name = llmCostBasedRateLimitPolicyName then
      some ⟨if consumerBased then .consumer else .provider, .cost, amount, duration, path⟩
    else none
  | .quotas _ limit duration _ =>
    if name = advancedRateLimitPolicyName then
      some ⟨.consumer, .request, limit, duration, path⟩
    else none
  | .empty => none
  | .apiKeyAuth _ _ _ => none

def readGlobal (policies : List GlobalPolicy) : List EmittedLimit :=
  policies.filterMap fun policy => readLimit policy.name "/*" policy.params

def OperationPolicy.read (policy : OperationPolicy) : List EmittedLimit :=
  policy.paths.filterMap fun path => readLimit policy.name path.path path.params

def readOperation (policies : List OperationPolicy) : List EmittedLimit :=
  policies.flatMap OperationPolicy.read

def emittedLimits (spec : LLMProviderDeploymentSpec) : List EmittedLimit :=
  readGlobal spec.globalPolicies ++ readOperation spec.operationPolicies

/-! ## The limits that a configuration enables -/

abbrev Windows := RateLimitResetWindow → String

/-- The window that a configuration asks for, in Go's units of duration; a month has thirty days. -/
def exactWindow : Windows := fun reset =>
  let days := reset.duration.toInt * 24
  match toLower (trimSpace reset.unit) with
  | "minute" => toString reset.duration.toInt ++ "m"
  | "hour" => toString reset.duration.toInt ++ "h"
  | "day" => toString days ++ "h"
  | "week" => toString (days * 7) ++ "h"
  | "month" => toString (days * 30) ++ "h"
  | _ => ""

def formattedWindow : Windows := fun reset =>
  match formatRateLimitDuration reset.duration reset.unit with
  | .ok window => window
  | .error _ => ""

section Limits

variable (windows : Windows) (scope : LimitScope)

def limitAt (path : String) (limits : RateLimitingLimitConfig) (kind : LimitKind) :
    Option EmittedLimit :=
  ((limits.limit kind).filter (·.enabled)).map fun limit =>
    ⟨scope, kind, limit.count, windows limit.reset, path⟩

def limitsAt (path : String) (limits : RateLimitingLimitConfig) : List EmittedLimit :=
  limitKinds.filterMap (limitAt windows scope path limits)

def entryLimits (entry : RateLimitingResourceLimit) : List EmittedLimit :=
  limitsAt windows scope entry.resource entry.limit

end Limits

/-- The Global block, or else the default and the first entry of each resource. -/
def expectedLevel (scope : LimitScope) (level : RateLimitingScopeConfig) : List EmittedLimit :=
  match level.global, level.resourceWise with
  | some limits, _ => limitsAt exactWindow scope "/*" limits
  | none, some resourceWise =>
    limitsAt exactWindow scope "/*" resourceWise.default ++
      (firsts RateLimitingResourceLimit.resource resourceWise.resources).flatMap
        (entryLimits exactWindow scope)
  | none, none => []

def expectedLimits (config : LLMProviderConfig) : List EmittedLimit :=
  match config.rateLimiting with
  | none => []
  | some rateLimit =>
    rateLimit.providerLevel.elim [] (expectedLevel .provider) ++
      rateLimit.consumerLevel.elim [] (expectedLevel .consumer)

/-! ## Adding a path -/

section AddPath

variable {fits : OperationPolicy → Bool} {name : String} {path : OperationPolicyPath}

def pathsNamed (name : String) (policies : List OperationPolicy) : List String :=
  (policies.filter (·.name = name)).flatMap (·.paths.map (·.path))

@[simp] theorem pathsNamed_nil (name : String) : pathsNamed name [] = [] :=
  rfl

theorem pathsNamed_cons (policy : OperationPolicy) (rest : List OperationPolicy) (name : String) :
    pathsNamed name (policy :: rest) =
      (if policy.name = name then policy.paths.map (·.path) else []) ++ pathsNamed name rest := by
  by_cases hname : policy.name = name
  · simp [pathsNamed, hname]
  · simp [pathsNamed, hname]

theorem pathsNamed_append (name : String) (first second : List OperationPolicy) :
    pathsNamed name (first ++ second) = pathsNamed name first ++ pathsNamed name second := by
  simp [pathsNamed]

theorem pathsNamed_eq_nil {policies : List OperationPolicy} (hname : name ∉ policies.map (·.name)) :
    pathsNamed name policies = [] := by
  have hnone : policies.filter (·.name = name) = [] := by
    rw [List.filter_eq_nil_iff]
    intro policy hmem hsame
    exact hname (List.mem_map.mpr ⟨policy, hmem, of_decide_eq_true hsame⟩)
  rw [pathsNamed, hnone]
  rfl

theorem any_path_iff {paths : List OperationPolicyPath} {wanted : String} :
    paths.any (·.path = wanted) = true ↔ wanted ∈ paths.map (·.path) := by
  rw [List.any_eq_true, List.mem_map]
  simp only [decide_eq_true_iff]

/-- What adding a path changes, when the fitting policy is the one with the name. -/
structure PathAdded (name : String) (path : OperationPolicyPath)
    (policies next : List OperationPolicy) : Prop where
  names : next.map (·.name) = policies.map (·.name) ∨
    next.map (·.name) = policies.map (·.name) ++ [name] ∧ name ∉ policies.map (·.name)
  paths : ∀ other, pathsNamed other next =
    if other = name then pathsNamed name policies ++ [path.path] else pathsNamed other policies
  read : (readOperation next).Perm
    (readOperation policies ++ (readLimit name path.path path.params).toList)

theorem addOrAppendPath_of_mem {policies : List OperationPolicy}
    (hunique : (policies.map (·.name)).Nodup)
    (hfits : ∀ policy ∈ policies, fits policy = true ↔ policy.name = name)
    (hmem : path.path ∈ pathsNamed name policies) :
    addOrAppendPath fits name "" path policies = policies := by
  induction policies with
  | nil => cases hmem
  | cons policy rest ih =>
    rw [List.map_cons, List.nodup_cons] at hunique
    obtain ⟨hpolicy, hrest⟩ := List.forall_mem_cons.mp hfits
    rw [pathsNamed_cons] at hmem
    by_cases hname : policy.name = name
    · rw [if_pos hname, pathsNamed_eq_nil (hname ▸ hunique.1), List.append_nil] at hmem
      rw [addOrAppendPath, if_pos (hpolicy.mpr hname), if_pos (any_path_iff.mpr hmem)]
    · rw [if_neg hname, List.nil_append] at hmem
      rw [addOrAppendPath, if_neg (hname ∘ hpolicy.mp), ih hunique.2 hrest hmem]

theorem pathAdded_of_not_mem {policies : List OperationPolicy}
    (hunique : (policies.map (·.name)).Nodup)
    (hfits : ∀ policy ∈ policies, fits policy = true ↔ policy.name = name)
    (hmem : path.path ∉ pathsNamed name policies) :
    PathAdded name path policies (addOrAppendPath fits name "" path policies) := by
  induction policies with
  | nil =>
    refine ⟨.inr ⟨rfl, List.not_mem_nil⟩, fun other => ?_, ?_⟩
    · rw [addOrAppendPath, pathsNamed_cons, eq_comm]
      by_cases hother : other = name
      · simp [hother]
      · simp [hother, Ne.symm hother]
    · rw [addOrAppendPath]
      cases hread : readLimit name path.path path.params with
      | none | some limit => simp [readOperation, OperationPolicy.read, hread]
  | cons policy rest ih =>
    rw [List.map_cons, List.nodup_cons] at hunique
    obtain ⟨hpolicy, hrest⟩ := List.forall_mem_cons.mp hfits
    rw [pathsNamed_cons, List.mem_append, not_or] at hmem
    by_cases hname : policy.name = name
    · rw [if_pos hname] at hmem
      have hothers := pathsNamed_eq_nil (hname ▸ hunique.1)
      rw [addOrAppendPath, if_pos (hpolicy.mpr hname), if_neg (hmem.1 ∘ any_path_iff.mp)]
      refine ⟨.inl rfl, fun other => ?_, ?_⟩
      · rw [pathsNamed_cons, pathsNamed_cons, pathsNamed_cons, if_pos hname, hothers]
        by_cases hother : other = name
        · subst hother
          simp [hname, hothers]
        · simp [hother, hname, Ne.symm hother]
      · have hread : OperationPolicy.read { policy with paths := policy.paths ++ [path] } =
            policy.read ++ (readLimit name path.path path.params).toList := by
          cases hpath : readLimit policy.name path.path path.params with
          | none | some limit => simp [OperationPolicy.read, hpath, ← hname]
        simp only [readOperation, List.flatMap_cons, hread, List.append_assoc]
        exact (List.perm_append_comm).append_left _
    · rw [if_neg hname] at hmem
      obtain ⟨hnames, hpaths, hread⟩ := ih hunique.2 hrest hmem.2
      rw [addOrAppendPath, if_neg (hname ∘ hpolicy.mp)]
      refine ⟨?_, fun other => ?_, ?_⟩
      · refine hnames.imp (fun hsame => ?_) fun ⟨hsame, habsent⟩ => ⟨?_, ?_⟩
        · rw [List.map_cons, hsame, List.map_cons]
        · rw [List.map_cons, hsame, List.map_cons, List.cons_append]
        · rw [List.map_cons, List.mem_cons, not_or]
          exact ⟨Ne.symm hname, habsent⟩
      · rw [pathsNamed_cons, hpaths, pathsNamed_cons, pathsNamed_cons, if_neg hname]
        by_cases hother : other = name
        · simp [hother, hname]
        · simp [hother]
      · simp only [readOperation, List.flatMap_cons, List.append_assoc] at hread ⊢
        exact hread.append_left _

theorem forall_mem_addOrAppendPath {good : OperationPolicy → Prop} {policies : List OperationPolicy}
    (hall : ∀ policy ∈ policies, good policy) (hnew : good ⟨name, "", [path]⟩)
    (hgrown : ∀ policy, good policy → fits policy = true →
      good { policy with paths := policy.paths ++ [path] }) :
    ∀ policy ∈ addOrAppendPath fits name "" path policies, good policy := by
  induction policies with
  | nil => simpa [addOrAppendPath] using hnew
  | cons policy rest ih =>
    obtain ⟨hpolicy, hrest⟩ := List.forall_mem_cons.mp hall
    rw [addOrAppendPath]
    split
    · next hfits =>
        split
        · exact hall
        · exact List.forall_mem_cons.mpr ⟨hgrown policy hpolicy hfits, hrest⟩
    · exact List.forall_mem_cons.mpr ⟨hpolicy, ih hrest⟩

end AddPath

/-! ## The policies of a level -/

theorem limitPolicyName_inj {scope : LimitScope} {kind other : LimitKind}
    (hname : limitPolicyName scope kind = limitPolicyName scope other) : kind = other := by
  revert hname
  cases scope <;> cases kind <;> cases other <;> decide

theorem limitPolicyName_ne_llmCost (scope : LimitScope) (kind : LimitKind) :
    llmCostPolicyName ≠ limitPolicyName scope kind := by
  cases scope <;> cases kind <;> decide

@[simp] theorem readLimit_limitParams (keyType : String) (scope : LimitScope) (kind : LimitKind)
    (count : Rat) (duration path : String) :
    readLimit (limitPolicyName scope kind) path (limitParams keyType count duration scope kind) =
      some ⟨scope, kind, count, duration, path⟩ := by
  cases scope <;> cases kind <;> rfl

theorem consumerBased_limitParams (keyType : String) (count : Rat) (duration : String)
    (scope : LimitScope) (kind : LimitKind) :
    (limitParams keyType count duration scope kind).consumerBased =
      (limitParams "" 0 "" scope kind).consumerBased := by
  cases scope <;> cases kind <;> rfl

/-- A policy of the list, if it is for limits, is for limits of the scope. -/
def OperationPolicy.Suits (scope : LimitScope) (policy : OperationPolicy) : Prop :=
  ∀ kind, policy.name = limitPolicyName scope kind → policy.version = "" ∧
    ∀ path ∈ policy.paths,
      path.params.consumerBased = (limitParams "" 0 "" scope kind).consumerBased

/-- A list of policies holds the limits that were added, of each kind and path the first. -/
structure HoldsLimits (scope : LimitScope) (policies : List OperationPolicy)
    (added : List EmittedLimit) : Prop where
  unique : (policies.map (·.name)).Nodup
  suits : ∀ policy ∈ policies, policy.Suits scope
  paths : ∀ kind path, path ∈ pathsNamed (limitPolicyName scope kind) policies ↔
    added.any (·.key = (kind, path)) = true
  read : (readOperation policies).Perm (firsts EmittedLimit.key added)

section Holds

variable {scope : LimitScope} {policies : List OperationPolicy} {added : List EmittedLimit}

theorem holdsLimits_nil (scope : LimitScope) : HoldsLimits scope [] [] :=
  ⟨List.nodup_nil, by simp, by simp, .refl _⟩

theorem HoldsLimits.addPath (hholds : HoldsLimits scope policies added)
    {fits : OperationPolicy → Bool} (path : String) (kind : LimitKind) (count : Rat)
    (duration keyType : String) (hfits : ∀ policy, policy.Suits scope →
      (fits policy = true ↔ policy.name = limitPolicyName scope kind)) :
    HoldsLimits scope
      (addOrAppendPath fits (limitPolicyName scope kind) ""
        ⟨path, ["*"], limitParams keyType count duration scope kind⟩ policies)
      (added ++ [⟨scope, kind, count, duration, path⟩]) := by
  have hall : ∀ policy ∈ policies, fits policy = true ↔ policy.name = limitPolicyName scope kind :=
    fun policy hmem => hfits policy (hholds.suits policy hmem)
  by_cases hmem : path ∈ pathsNamed (limitPolicyName scope kind) policies
  · rw [addOrAppendPath_of_mem hholds.unique hall hmem]
    have hany := (hholds.paths kind path).mp hmem
    refine { hholds with paths := fun other wanted => ?_, read := ?_ }
    · rw [hholds.paths, List.any_append, Bool.or_eq_true, or_iff_left_of_imp]
      intro hsame
      simp only [List.any_cons, List.any_nil, Bool.or_false, EmittedLimit.key] at hsame
      rwa [← of_decide_eq_true hsame]
    · have hfirsts : firsts EmittedLimit.key (added ++ [⟨scope, kind, count, duration, path⟩]) =
          firsts EmittedLimit.key added := by
        rw [firsts_append_singleton, addFirst, any_firsts]
        exact if_pos hany
      rw [hfirsts]
      exact hholds.read
  · have hadded : PathAdded (limitPolicyName scope kind)
        ⟨path, ["*"], limitParams keyType count duration scope kind⟩ policies _ :=
      pathAdded_of_not_mem hholds.unique hall hmem
    have hnone : ¬ added.any (·.key = (kind, path)) = true := hmem ∘ (hholds.paths kind path).mpr
    refine ⟨?_, ?_, fun other wanted => ?_, ?_⟩
    · rcases hadded.names with hnames | ⟨hnames, habsent⟩
      · rw [hnames]
        exact hholds.unique
      · rw [hnames, ← List.concat_eq_append]
        exact hholds.unique.concat habsent
    · have hsuit : ∀ {other}, limitPolicyName scope kind = limitPolicyName scope other →
          (limitParams keyType count duration scope kind).consumerBased =
            (limitParams "" 0 "" scope other).consumerBased := by
        intro other hother
        rw [consumerBased_limitParams, limitPolicyName_inj hother]
      refine forall_mem_addOrAppendPath hholds.suits ?_ ?_
      · exact fun other hother => ⟨rfl, by simpa using hsuit hother⟩
      · intro policy hpolicy hfit other hother
        obtain ⟨hversion, hpaths⟩ := hpolicy other hother
        refine ⟨hversion, fun path hpath => ?_⟩
        rcases List.mem_append.mp hpath with hpath | hpath
        · exact hpaths path hpath
        · rw [List.mem_singleton.mp hpath]
          exact hsuit (((hfits policy hpolicy).mp hfit).symm.trans hother)
    · rw [hadded.paths, List.any_append, Bool.or_eq_true, ← hholds.paths]
      by_cases hother : other = kind
      · subst hother
        simp [EmittedLimit.key, eq_comm]
      · rw [if_neg (hother ∘ limitPolicyName_inj)]
        simp [EmittedLimit.key, Ne.symm hother]
    · have hfirsts : firsts EmittedLimit.key (added ++ [⟨scope, kind, count, duration, path⟩]) =
          firsts EmittedLimit.key added ++ [⟨scope, kind, count, duration, path⟩] := by
        rw [firsts_append_singleton, addFirst, any_firsts]
        exact if_neg hnone
      have hread := hadded.read
      rw [readLimit_limitParams] at hread
      rw [hfirsts]
      exact hread.trans (hholds.read.append_right _)

theorem HoldsLimits.addCost (hholds : HoldsLimits scope policies added)
    (habsent : hasOperationPolicy policies llmCostPolicyName = false) :
    HoldsLimits scope (policies ++ [llmCostPolicy]) added := by
  have hnew : llmCostPolicyName ∉ policies.map (·.name) := by
    intro hmem
    obtain ⟨policy, hpolicy, hname⟩ := List.mem_map.mp hmem
    have hfound : hasOperationPolicy policies llmCostPolicyName = true :=
      List.any_eq_true.mpr ⟨policy, hpolicy, decide_eq_true hname⟩
    rw [habsent] at hfound
    cases hfound
  refine ⟨?_, ?_, fun kind path => ?_, ?_⟩
  · rw [List.map_append, List.map_singleton, ← List.concat_eq_append]
    exact hholds.unique.concat hnew
  · intro policy hmem
    rcases List.mem_append.mp hmem with hmem | hmem
    · exact hholds.suits policy hmem
    · rw [List.mem_singleton.mp hmem]
      exact fun kind hname => absurd hname (limitPolicyName_ne_llmCost scope kind)
  · have hother : pathsNamed (limitPolicyName scope kind) [llmCostPolicy] = [] :=
      pathsNamed_eq_nil
        (by simpa [llmCostPolicy] using (limitPolicyName_ne_llmCost scope kind).symm)
    rw [pathsNamed_append, hother, List.append_nil]
    exact hholds.paths kind path
  · have hread : readOperation (policies ++ [llmCostPolicy]) = readOperation policies := by
      simp [readOperation, OperationPolicy.read, llmCostPolicy, readLimit]
    rw [hread]
    exact hholds.read

end Holds

/-! ## The levels -/

def readAll (output : DeploymentPolicies) : List EmittedLimit :=
  readGlobal output.globalPolicies ++
    (readOperation output.operationPolicies ++ readOperation output.policies)

/-- What is emitted for a level: the resource-wise limits in the order of the code, without
those for a path that has a limit of the kind, and for consumers without the default. -/
def emittedLevel (scope : LimitScope) (level : RateLimitingScopeConfig) : List EmittedLimit :=
  match level.global, level.resourceWise with
  | some limits, _ => limitsAt formattedWindow scope "/*" limits
  | none, some resourceWise =>
    firsts EmittedLimit.key
      ((if scope = .provider then limitsAt formattedWindow scope "/*" resourceWise.default
        else []) ++
        resourceWise.resources.flatMap (entryLimits formattedWindow scope))
  | none, none => []

section Levels

variable {scope : LimitScope} {output next : DeploymentPolicies} {level : RateLimitingScopeConfig}

theorem emitLimits_induction
    {emit : LimitKind → Rat → String → DeploymentPolicies → DeploymentPolicies}
    {place path : String} {added : List EmittedLimit}
    (holds : List EmittedLimit → DeploymentPolicies → Prop)
    (hemit : ∀ {added output} kind count duration, holds added output →
      holds (added ++ [⟨scope, kind, count, duration, path⟩]) (emit kind count duration output))
    (hstart : holds added output) (hok : emitLimits emit who place limits output = .ok next) :
    holds (added ++ limitsAt formattedWindow scope path limits) next := by
  refine foldlM_ok_induction
    (fun kinds state => holds
      (added ++ kinds.filterMap (limitAt formattedWindow scope path limits)) state)
    (by simpa using hstart) ?_ hok
  intro kinds kind state after hstate hstep
  rw [List.filterMap_append, ← List.append_assoc]
  cases hlimit : (limits.limit kind).filter (·.enabled) with
  | none =>
    rw [hlimit] at hstep
    have hnone : limitAt formattedWindow scope path limits kind = none := by
      rw [limitAt, hlimit, Option.map_none]
    rw [List.filterMap_cons_none hnone, List.filterMap_nil, List.append_nil,
      ← Except.ok.inj hstep]
    exact hstate
  | some limit =>
    rw [hlimit] at hstep
    obtain ⟨duration, hduration, hstep⟩ := bind_eq_ok.mp hstep
    have hsome : limitAt formattedWindow scope path limits kind =
        some ⟨scope, kind, limit.count, duration, path⟩ := by
      rw [limitAt, hlimit, Option.map_some, formattedWindow, mapError_eq_ok.mp hduration]
    rw [List.filterMap_cons_some hsome, List.filterMap_nil, ← Except.ok.inj hstep]
    exact hemit kind limit.count duration hstate

theorem foldlM_emitLimits_induction
    {emit : String → LimitKind → Rat → String → DeploymentPolicies → DeploymentPolicies}
    {place : RateLimitingResourceLimit → String} {added : List EmittedLimit}
    (holds : List EmittedLimit → DeploymentPolicies → Prop)
    (hemit : ∀ {added output} path kind count duration, holds added output →
      holds (added ++ [⟨scope, kind, count, duration, path⟩])
        (emit path kind count duration output)) (hstart : holds added output)
    (hok : resources.foldlM (fun output entry =>
      emitLimits (emit entry.resource) who (place entry) entry.limit output) output = .ok next) :
    holds (added ++ resources.flatMap (entryLimits formattedWindow scope)) next := by
  refine foldlM_ok_induction
    (fun entries state => holds
      (added ++ entries.flatMap (entryLimits formattedWindow scope)) state)
    (by simpa using hstart) ?_ hok
  intro entries entry state after hstate hstep
  rw [List.flatMap_append, List.flatMap_singleton, ← List.append_assoc]
  exact emitLimits_induction holds (hemit entry.resource) hstate hstep

@[simp] theorem readGlobal_append (first second : List GlobalPolicy) :
    readGlobal (first ++ second) = readGlobal first ++ readGlobal second := by
  simp [readGlobal]

@[simp] theorem readOperation_append (first second : List OperationPolicy) :
    readOperation (first ++ second) = readOperation first ++ readOperation second := by
  simp [readOperation]

@[simp] theorem readOperation_llmCostPolicy : readOperation [llmCostPolicy] = [] :=
  rfl

@[simp] theorem readGlobal_llmCost : readGlobal [⟨llmCostPolicyName, .empty⟩] = [] :=
  rfl

theorem readAll_addConsumerCost (kind : LimitKind) (output : DeploymentPolicies) :
    readAll (addConsumerCost kind output) = readAll output := by
  rw [addConsumerCost]
  split
  · simp [readAll]
  · rfl

section Emitting

variable {added : List EmittedLimit} (path : String) (kind : LimitKind) (count : Rat)
  (duration : String)

theorem emitProviderGlobal_effect :
    readGlobal (emitProviderGlobal kind count duration output).globalPolicies =
        readGlobal output.globalPolicies ++ [⟨.provider, kind, count, duration, "/*"⟩] ∧
      (emitProviderGlobal kind count duration output).operationPolicies =
        output.operationPolicies ∧
      (emitProviderGlobal kind count duration output).policies = output.policies := by
  have hone : readGlobal [⟨limitPolicyName .provider kind,
      limitParams "" count duration .provider kind⟩] =
      [⟨.provider, kind, count, duration, "/*"⟩] := by
    simp [readGlobal]
  rw [emitProviderGlobal]
  split
  · rw [readGlobal_append, readGlobal_append, hone, readGlobal_llmCost, List.append_nil]
    exact ⟨rfl, rfl, rfl⟩
  · rw [readGlobal_append, hone]
    exact ⟨rfl, rfl, rfl⟩

theorem emitConsumerGlobal_read :
    (readAll (emitConsumerGlobal kind count duration output)).Perm
      (readAll output ++ [⟨.consumer, kind, count, duration, "/*"⟩]) := by
  rw [emitConsumerGlobal]
  split
  · have hone : readGlobal [⟨limitPolicyName .consumer kind,
        limitParams "apiname" count duration .consumer kind⟩] =
        [⟨.consumer, kind, count, duration, "/*"⟩] := by
      simp [readGlobal]
    rw [readAll, readAll, readGlobal_append, hone, List.append_assoc, List.append_assoc]
    exact List.perm_append_comm.append_left _
  · have hone : readOperation [⟨limitPolicyName .consumer kind, "", [⟨"/*", ["*"],
        limitParams "apiname" count duration .consumer kind⟩]⟩] =
        [⟨.consumer, kind, count, duration, "/*"⟩] := by
      simp [readOperation, OperationPolicy.read]
    rw [readAll_addConsumerCost]
    simp only [readAll, readOperation_append, hone, List.append_assoc]
    exact .refl _

def ProviderHolds (added : List EmittedLimit) (output : DeploymentPolicies) : Prop :=
  readGlobal output.globalPolicies = [] ∧
    HoldsLimits .provider output.operationPolicies added ∧ output.policies = []

theorem ProviderHolds.emit (hholds : ProviderHolds added output) :
    ProviderHolds (added ++ [⟨.provider, kind, count, duration, path⟩])
      (emitProviderAt path kind count duration output) := by
  obtain ⟨hread, hholds, hempty⟩ := hholds
  have hfits : ∀ policy : OperationPolicy, policy.Suits .provider →
      (decide (policy.name = limitPolicyName .provider kind ∧ policy.version = "") = true ↔
        policy.name = limitPolicyName .provider kind) := by
    intro policy hsuits
    rw [decide_eq_true_iff]
    exact ⟨And.left, fun hname => ⟨hname, (hsuits kind hname).1⟩⟩
  have hadded := hholds.addPath path kind count duration "" hfits
  rw [emitProviderAt]
  split
  · next hcost => exact ⟨hread, hadded.addCost hcost.2, hempty⟩
  · exact ⟨hread, hadded, hempty⟩

theorem emitConsumerAt_effect (hholds : HoldsLimits .consumer output.policies added) :
    (emitConsumerAt path kind count duration output).globalPolicies = output.globalPolicies ∧
      (emitConsumerAt path kind count duration output).operationPolicies =
        output.operationPolicies ∧
      HoldsLimits .consumer (emitConsumerAt path kind count duration output).policies
        (added ++ [⟨.consumer, kind, count, duration, path⟩]) := by
  have hfits : ∀ policy : OperationPolicy, policy.Suits .consumer →
      (decide (policy.name = limitPolicyName .consumer kind ∧ policy.version = "" ∧
        policy.paths.head?.all (·.params.consumerBased =
          (limitParams "routename" count duration .consumer kind).consumerBased)) = true ↔
        policy.name = limitPolicyName .consumer kind) := by
    intro policy hsuits
    rw [decide_eq_true_iff]
    refine ⟨And.left, fun hname => ⟨hname, (hsuits kind hname).1, ?_⟩⟩
    rw [Option.all_eq_true, consumerBased_limitParams]
    exact fun first hfirst =>
      decide_eq_true ((hsuits kind hname).2 first (List.mem_of_mem_head? hfirst))
  have hadded := hholds.addPath path kind count duration "routename" hfits
  rw [emitConsumerAt, addConsumerCost]
  split
  · next hcost => exact ⟨rfl, rfl, hadded.addCost hcost.2.1⟩
  · exact ⟨rfl, rfl, hadded⟩

end Emitting

theorem emitProviderLevel_read (hok : emitProviderLevel level output = .ok next)
    (hglobal : readGlobal output.globalPolicies = []) (hoperation : output.operationPolicies = [])
    (hpolicies : output.policies = []) :
    (readAll next).Perm (emittedLevel .provider level) ∧ next.policies = [] := by
  rw [emitProviderLevel] at hok
  rw [emittedLevel]
  cases hlevel : level.global with
  | some limits =>
    rw [hlevel] at hok
    have hblock : readGlobal next.globalPolicies =
        [] ++ limitsAt formattedWindow .provider "/*" limits ∧
        next.operationPolicies = [] ∧ next.policies = [] := by
      refine emitLimits_induction (fun added state => readGlobal state.globalPolicies = added ∧
        state.operationPolicies = [] ∧ state.policies = []) ?_
        ⟨hglobal, hoperation, hpolicies⟩ hok
      intro added state kind count duration ⟨hread, hnone, hempty⟩
      obtain ⟨hadded, hsame, hframe⟩ := emitProviderGlobal_effect kind count duration
      exact ⟨by rw [hadded, hread], hsame.trans hnone, hframe.trans hempty⟩
    obtain ⟨hread, hnone, hempty⟩ := hblock
    rw [readAll, hread, hnone, hempty]
    exact ⟨by simp [readOperation], rfl⟩
  | none =>
    rw [hlevel] at hok
    cases hresource : level.resourceWise with
    | none =>
      rw [hresource] at hok
      rw [← Except.ok.inj hok, readAll, hglobal, hoperation, hpolicies]
      exact ⟨.refl _, rfl⟩
    | some resourceWise =>
      rw [hresource] at hok
      obtain ⟨middle, hdefault, hresources⟩ := bind_eq_ok.mp hok
      have hstart : ProviderHolds [] output :=
        ⟨hglobal, hoperation ▸ holdsLimits_nil .provider, hpolicies⟩
      have hmiddle := emitLimits_induction ProviderHolds (ProviderHolds.emit "/*") hstart
        hdefault
      obtain ⟨hread, hholds, hempty⟩ :=
        foldlM_emitLimits_induction ProviderHolds ProviderHolds.emit hmiddle hresources
      rw [readAll, hread, hempty]
      exact ⟨by simpa [readOperation] using hholds.read, rfl⟩

theorem emitConsumerLevel_read (hok : emitConsumerLevel level output = .ok next)
    (hpolicies : output.policies = []) :
    (readAll next).Perm (readAll output ++ emittedLevel .consumer level) := by
  rw [emitConsumerLevel] at hok
  rw [emittedLevel]
  cases hlevel : level.global with
  | some limits =>
    rw [hlevel] at hok
    have hblock : (readAll next).Perm
        (readAll output ++ ([] ++ limitsAt formattedWindow .consumer "/*" limits)) := by
      refine emitLimits_induction
        (fun added state => (readAll state).Perm (readAll output ++ added)) ?_ (by simp) hok
      intro added state kind count duration hstate
      rw [← List.append_assoc]
      exact (emitConsumerGlobal_read kind count duration).trans (hstate.append_right _)
    exact hblock
  | none =>
    rw [hlevel] at hok
    cases hresource : level.resourceWise with
    | none =>
      rw [hresource] at hok
      rw [← Except.ok.inj hok, List.append_nil]
    | some resourceWise =>
      rw [hresource] at hok
      obtain ⟨hglobal, hoperation, hholds⟩ := foldlM_emitLimits_induction
        (fun added state => state.globalPolicies = output.globalPolicies ∧
          state.operationPolicies = output.operationPolicies ∧
          HoldsLimits .consumer state.policies added)
        (fun {added state} path kind count duration ⟨hglobal, hoperation, hholds⟩ => by
          obtain ⟨hsame, hframe, hadded⟩ := emitConsumerAt_effect path kind count duration hholds
          exact ⟨hsame.trans hglobal, hframe.trans hoperation, hadded⟩)
        ⟨rfl, rfl, hpolicies ▸ holdsLimits_nil .consumer⟩ hok
      have hnone : readOperation output.policies = [] := by
        rw [hpolicies]
        rfl
      rw [readAll, readAll, hglobal, hoperation, hnone, List.append_nil, ← List.append_assoc]
      exact hholds.read.append_left _

end Levels

/-! ## The whole deployment -/

def emittedByConfig (config : LLMProviderConfig) : List EmittedLimit :=
  match config.rateLimiting with
  | none => []
  | some rateLimit =>
    rateLimit.providerLevel.elim [] (emittedLevel .provider) ++
      rateLimit.consumerLevel.elim [] (emittedLevel .consumer)

theorem orderCostPolicies_perm {Item : Type} (name : Item → String) (items : List Item) :
    (orderCostPolicies name items).Perm items := by
  rw [orderCostPolicies]
  split
  · next cost rateLimit _ _ =>
      split
      · next tracker limit hcost hlimit =>
          split
          · obtain ⟨hcostlt, rfl⟩ := List.getElem?_eq_some_iff.mp hcost
            obtain ⟨hlimitlt, rfl⟩ := List.getElem?_eq_some_iff.mp hlimit
            exact List.set_set_perm hcostlt hlimitlt
          · exact .refl _
      · exact .refl _
  · exact .refl _

theorem readGlobal_securityPolicies {security : Option SecurityConfig}
    {policies : List GlobalPolicy} (hok : securityPolicies security = .ok policies) :
    readGlobal policies = [] := by
  rw [securityPolicies] at hok
  split at hok
  · rw [← Except.ok.inj hok]
    rfl
  · simp only at hok
    split_ifs at hok
    all_goals
      rw [← Except.ok.inj hok]
      rfl

theorem emitPolicies_read {output : DeploymentPolicies} (hok : emitPolicies config = .ok output) :
    (readAll output).Perm (emittedByConfig config) := by
  obtain ⟨globalPolicies, hsecurity, hok⟩ := bind_eq_ok.mp hok
  have hglobal := readGlobal_securityPolicies hsecurity
  rw [emittedByConfig]
  cases hlimits : config.rateLimiting with
  | none =>
    rw [hlimits] at hok
    rw [← Except.ok.inj hok]
    exact .of_eq (by rw [readAll, hglobal]; rfl)
  | some rateLimit =>
    rw [hlimits] at hok
    obtain ⟨middle, hprovider, hconsumer⟩ := bind_eq_ok.mp hok
    have hmiddle : (readAll middle).Perm
        (rateLimit.providerLevel.elim [] (emittedLevel .provider)) ∧ middle.policies = [] := by
      cases hlevel : rateLimit.providerLevel with
      | none =>
        rw [hlevel] at hprovider
        rw [← Except.ok.inj hprovider]
        exact ⟨.of_eq (by rw [readAll, hglobal]; rfl), rfl⟩
      | some level =>
        rw [hlevel] at hprovider
        exact emitProviderLevel_read hprovider hglobal rfl rfl
    simp only
    cases hlevel : rateLimit.consumerLevel with
    | none =>
      rw [hlevel] at hconsumer
      rw [← Except.ok.inj hconsumer]
      simpa using hmiddle.1
    | some level =>
      rw [hlevel] at hconsumer
      exact (emitConsumerLevel_read hconsumer hmiddle.2).trans (hmiddle.1.append_right _)

theorem emittedLimits_perm {templateHandle : String} {spec : LLMProviderDeploymentSpec}
    (hok : generateLLMProviderDeploymentYAML config templateHandle = .ok spec) :
    (emittedLimits spec).Perm (emittedByConfig config) := by
  rw [generateLLMProviderDeploymentYAML] at hok
  split_ifs at hok
  split at hok
  · cases hok
  · split_ifs at hok
    obtain ⟨output, hemit, rfl⟩ := map_eq_ok.mp hok
    rw [emittedLimits, readOperation_append]
    refine List.Perm.trans ?_ (emitPolicies_read hemit)
    exact ((orderCostPolicies_perm _ _).filterMap _).append
      (((orderCostPolicies_perm _ _).flatMap_right _).append
        ((orderCostPolicies_perm _ _).flatMap_right _))

/-! ## Counting the limits -/

section AtPath

variable (windows : Windows) (scope : LimitScope)

def defaultLimit (resourceWise : ResourceWiseRateLimitingConfig) (kind : LimitKind)
    (path : String) : Option EmittedLimit :=
  if path = "/*" then limitAt windows scope "/*" resourceWise.default kind else none

def firstLimit (resources : List RateLimitingResourceLimit) (kind : LimitKind) (path : String) :
    Option EmittedLimit :=
  (resources.find? (·.resource = path)).bind fun entry =>
    limitAt windows scope path entry.limit kind

def anyLimit (resources : List RateLimitingResourceLimit) (kind : LimitKind) (path : String) :
    Option EmittedLimit :=
  resources.findSome? fun entry =>
    if entry.resource = path then limitAt windows scope path entry.limit kind else none

end AtPath

/-- The default of a provider, and otherwise the first enabled limit among the entries of a
resource; the default of consumers is not looked at. -/
def emittedLimit (scope : LimitScope) (resourceWise : ResourceWiseRateLimitingConfig)
    (kind : LimitKind) (path : String) : Option EmittedLimit :=
  (if scope = .provider then defaultLimit formattedWindow scope resourceWise kind path
    else none).or (anyLimit formattedWindow scope resourceWise.resources kind path)

/-- Windows are written exactly, and for every kind and path the limit that is emitted is the only
one that the default and the first entry of the resource enable. -/
def LevelKept (scope : LimitScope) (level : RateLimitingScopeConfig) : Prop :=
  match level.global, level.resourceWise with
  | some limits, _ => ∀ kind, limitAt formattedWindow scope "/*" limits kind =
      limitAt exactWindow scope "/*" limits kind
  | none, some resourceWise => ∀ kind path,
      defaultLimit exactWindow scope resourceWise kind path = none ∧
          emittedLimit scope resourceWise kind path =
            firstLimit exactWindow scope resourceWise.resources kind path ∨
        firstLimit exactWindow scope resourceWise.resources kind path = none ∧
          emittedLimit scope resourceWise kind path =
            defaultLimit exactWindow scope resourceWise kind path
  | none, none => True

section Counts

variable {windows : Windows} {scope : LimitScope} {kind : LimitKind} {path : String}
  {limit : EmittedLimit}

theorem limitAt_eq_some (hlimit : limitAt windows scope path limits kind = some limit) :
    limit.scope = scope ∧ limit.kind = kind ∧ limit.path = path := by
  obtain ⟨found, _, rfl⟩ := Option.map_eq_some_iff.mp hlimit
  exact ⟨rfl, rfl, rfl⟩

theorem limitAt_eq_some_iff :
    limitAt windows scope path limits kind = some limit ↔
      kind = limit.kind ∧ limitAt windows scope path limits limit.kind = some limit := by
  refine ⟨fun hlimit => ?_, fun ⟨hkind, hlimit⟩ => hkind ▸ hlimit⟩
  obtain ⟨-, hkind, -⟩ := limitAt_eq_some hlimit
  exact ⟨hkind.symm, hkind ▸ hlimit⟩

theorem find_limitsAt (limits : RateLimitingLimitConfig) (place : String) :
    (limitsAt windows scope place limits).find? (·.key = (kind, path)) =
      if place = path then limitAt windows scope path limits kind else none := by
  have hkinds : ∀ kinds : List LimitKind,
      (kinds.filterMap (limitAt windows scope place limits)).find? (·.key = (kind, path)) =
        if kind ∈ kinds ∧ place = path then limitAt windows scope path limits kind else none := by
    intro kinds
    induction kinds with
    | nil => simp
    | cons first rest ih =>
      cases hfirst : limitAt windows scope place limits first with
      | none =>
        rw [List.filterMap_cons_none hfirst, ih]
        by_cases hsame : kind = first ∧ place = path
        · obtain ⟨rfl, rfl⟩ := hsame
          simp [hfirst]
        · grind
      | some found =>
        obtain ⟨-, hkind, hpath⟩ := limitAt_eq_some hfirst
        by_cases hsame : kind = first ∧ place = path
        · obtain ⟨rfl, rfl⟩ := hsame
          simp [EmittedLimit.key, hkind, hpath, hfirst]
        · grind [EmittedLimit.key]
  rw [limitsAt, hkinds]
  have hmem : kind ∈ limitKinds := by cases kind <;> decide
  simp [hmem]

theorem count_limitsAt (limits : RateLimitingLimitConfig) :
    (limitsAt windows scope path limits).count limit =
      if limitAt windows scope path limits limit.kind = some limit then 1 else 0 := by
  rw [limitsAt, List.count_filterMap]
  by_cases hlimit : limitAt windows scope path limits limit.kind = some limit
  · have hsame : ∀ kind ∈ limitKinds,
        (limitAt windows scope path limits kind == some limit) = true ↔
        (kind == limit.kind) = true := by
      intro kind _
      rw [beq_iff_eq, beq_iff_eq, limitAt_eq_some_iff, and_iff_left hlimit]
    rw [List.countP_congr hsame, if_pos hlimit]
    cases limit.kind <;> rfl
  · rw [if_neg hlimit, List.countP_eq_zero]
    intro kind _ hsame
    exact hlimit (limitAt_eq_some_iff.mp (beq_iff_eq.mp hsame)).2

theorem find_entries (resources : List RateLimitingResourceLimit) :
    (resources.flatMap (entryLimits windows scope)).find? (·.key = (kind, path)) =
      anyLimit windows scope resources kind path := by
  rw [List.find?_flatMap]
  exact congrArg (resources.findSome? ·)
    (funext fun entry => find_limitsAt entry.limit entry.resource)

theorem count_entries (resources : List RateLimitingResourceLimit) :
    ((firsts RateLimitingResourceLimit.resource resources).flatMap
      (entryLimits windows scope)).count limit =
      if firstLimit windows scope resources limit.kind limit.path = some limit then 1 else 0 := by
  induction resources using List.reverseRecOn with
  | nil => simp [firstLimit, firsts]
  | append_singleton resources entry ih =>
    rw [firsts_append_singleton, addFirst, any_firsts, firstLimit, List.find?_append]
    by_cases hsame : entry.resource = limit.path
    · rw [hsame]
      cases hfound : resources.find? (·.resource = limit.path) with
      | some first =>
        have hany : resources.any (·.resource = limit.path) = true :=
          List.any_eq_true.mpr ⟨first, List.mem_of_find?_eq_some hfound,
            by simpa using List.find?_some hfound⟩
        rw [if_pos hany, ih, firstLimit, hfound, Option.some_or]
      | none =>
        have hany : ¬ resources.any (·.resource = limit.path) = true := by
          simpa [List.find?_eq_none] using hfound
        rw [if_neg hany, List.flatMap_append, List.count_append, ih, firstLimit, hfound,
          List.flatMap_singleton, entryLimits, hsame, count_limitsAt]
        simp [hsame]
    · have hnone : [entry].find? (·.resource = limit.path) = none := by simp [hsame]
      rw [hnone, Option.or_none]
      split
      · exact ih
      · have hother : (entryLimits windows scope entry).count limit = 0 := by
          rw [entryLimits, count_limitsAt, if_neg]
          exact fun hlimit => hsame (limitAt_eq_some hlimit).2.2.symm
        rw [List.flatMap_append, List.count_append, ih, List.flatMap_singleton, hother]
        rfl

theorem count_defaultLimit (resourceWise : ResourceWiseRateLimitingConfig) :
    (limitsAt windows scope "/*" resourceWise.default).count limit =
      if defaultLimit windows scope resourceWise limit.kind limit.path =
        some limit then 1 else 0 := by
  rw [count_limitsAt, defaultLimit]
  by_cases hpath : limit.path = "/*"
  · rw [if_pos hpath]
  · have hother : limitAt windows scope "/*" resourceWise.default limit.kind ≠ some limit :=
      fun hlimit => hpath (limitAt_eq_some hlimit).2.2
    simp [hpath, hother]

theorem find_emitted (resourceWise : ResourceWiseRateLimitingConfig) :
    ((if scope = .provider then limitsAt formattedWindow scope "/*" resourceWise.default else []) ++
      resourceWise.resources.flatMap (entryLimits formattedWindow scope)).find?
        (·.key = (kind, path)) =
      emittedLimit scope resourceWise kind path := by
  rw [List.find?_append, find_entries, emittedLimit]
  split
  · rw [find_limitsAt, defaultLimit]
    by_cases hpath : path = "/*"
    · rw [hpath]
    · rw [if_neg hpath, if_neg (Ne.symm hpath)]
  · rfl

section Keyed

variable {resourceWise : ResourceWiseRateLimitingConfig}

theorem defaultLimit_key (hlimit : defaultLimit windows scope resourceWise kind path = some limit) :
    kind = limit.kind ∧ path = limit.path := by
  rw [defaultLimit] at hlimit
  split_ifs at hlimit with hpath
  obtain ⟨-, hkind, hplace⟩ := limitAt_eq_some hlimit
  exact ⟨hkind.symm, hpath.trans hplace.symm⟩

theorem firstLimit_key
    (hlimit : firstLimit windows scope resourceWise.resources kind path = some limit) :
    kind = limit.kind ∧ path = limit.path := by
  obtain ⟨entry, -, hlimit⟩ := Option.bind_eq_some_iff.mp hlimit
  obtain ⟨-, hkind, hplace⟩ := limitAt_eq_some hlimit
  exact ⟨hkind.symm, hplace.symm⟩

theorem emittedLimit_key (hlimit : emittedLimit scope resourceWise kind path = some limit) :
    kind = limit.kind ∧ path = limit.path := by
  rw [emittedLimit, Option.or_eq_some_iff] at hlimit
  rcases hlimit with hlimit | ⟨-, hlimit⟩
  · split_ifs at hlimit
    exact defaultLimit_key hlimit
  · obtain ⟨entry, -, hlimit⟩ := List.exists_of_findSome?_eq_some hlimit
    split_ifs at hlimit
    obtain ⟨-, hkind, hplace⟩ := limitAt_eq_some hlimit
    exact ⟨hkind.symm, hplace.symm⟩

end Keyed

theorem forall_limits_iff (resourceWise : ResourceWiseRateLimitingConfig) :
    (∀ limit,
      (if emittedLimit scope resourceWise limit.kind limit.path = some limit then 1 else 0) =
      (if defaultLimit windows scope resourceWise limit.kind limit.path =
        some limit then 1 else 0) +
      if firstLimit windows scope resourceWise.resources limit.kind limit.path =
        some limit then 1 else 0) ↔
    ∀ kind path, defaultLimit windows scope resourceWise kind path = none ∧
        emittedLimit scope resourceWise kind path =
          firstLimit windows scope resourceWise.resources kind path ∨
      firstLimit windows scope resourceWise.resources kind path = none ∧
        emittedLimit scope resourceWise kind path =
          defaultLimit windows scope resourceWise kind path := by
  simp only [← indicator_eq_add_iff]
  refine ⟨fun hall kind path limit => ?_, fun hall limit => hall limit.kind limit.path limit⟩
  by_cases hkey : kind = limit.kind ∧ path = limit.path
  · obtain ⟨rfl, rfl⟩ := hkey
    exact hall limit
  · rw [if_neg (hkey ∘ emittedLimit_key), if_neg (hkey ∘ defaultLimit_key),
      if_neg (hkey ∘ firstLimit_key)]

theorem limitsAt_perm_iff (limits : RateLimitingLimitConfig) {others : Windows} :
    (limitsAt windows scope path limits).Perm (limitsAt others scope path limits) ↔
      ∀ kind, limitAt windows scope path limits kind = limitAt others scope path limits kind := by
  have hindicator : ∀ {first second : Prop} [Decidable first] [Decidable second],
      (if first then 1 else 0) = (if second then 1 else 0) ↔ (first ↔ second) := by
    intro first second _ _
    split_ifs <;> simp_all
  simp only [List.perm_iff_count, count_limitsAt, hindicator]
  constructor
  · intro hall kind
    refine Option.ext fun limit => ?_
    rw [limitAt_eq_some_iff, hall limit, ← limitAt_eq_some_iff]
  · exact fun hall limit => by rw [hall]

theorem emittedLevel_perm_iff (level : RateLimitingScopeConfig) :
    (emittedLevel scope level).Perm (expectedLevel scope level) ↔ LevelKept scope level := by
  rw [emittedLevel, expectedLevel, LevelKept]
  cases level.global with
  | some limits => exact limitsAt_perm_iff limits
  | none =>
    cases level.resourceWise with
    | none => simp
    | some resourceWise =>
      have hcount : ∀ limit, (firsts EmittedLimit.key
          ((if scope = .provider then limitsAt formattedWindow scope "/*" resourceWise.default
            else []) ++ resourceWise.resources.flatMap (entryLimits formattedWindow scope))).count
              limit =
          if emittedLimit scope resourceWise limit.kind limit.path = some limit then 1
          else 0 := by
        intro limit
        rw [count_firsts, ← find_emitted]
        rfl
      simp only [List.perm_iff_count, List.count_append, hcount, count_defaultLimit,
        count_entries, forall_limits_iff]

theorem scope_of_mem_limitsAt (hmem : limit ∈ limitsAt windows scope path limits) :
    limit.scope = scope := by
  obtain ⟨kind, -, hlimit⟩ := List.mem_filterMap.mp hmem
  exact (limitAt_eq_some hlimit).1

theorem scope_of_mem_entries (hmem : limit ∈ resources.flatMap (entryLimits windows scope)) :
    limit.scope = scope := by
  obtain ⟨entry, -, hlimit⟩ := List.mem_flatMap.mp hmem
  exact scope_of_mem_limitsAt hlimit

theorem scope_of_mem_emittedLevel {level : RateLimitingScopeConfig}
    (hmem : limit ∈ emittedLevel scope level) : limit.scope = scope := by
  rw [emittedLevel] at hmem
  split at hmem
  · exact scope_of_mem_limitsAt hmem
  · rcases List.mem_append.mp (mem_of_mem_firsts hmem) with hmem | hmem
    · split at hmem
      · exact scope_of_mem_limitsAt hmem
      · cases hmem
    · exact scope_of_mem_entries hmem
  · cases hmem

theorem scope_of_mem_expectedLevel {level : RateLimitingScopeConfig}
    (hmem : limit ∈ expectedLevel scope level) : limit.scope = scope := by
  rw [expectedLevel] at hmem
  split at hmem
  · exact scope_of_mem_limitsAt hmem
  · rcases List.mem_append.mp hmem with hmem | hmem
    · exact scope_of_mem_limitsAt hmem
    · exact scope_of_mem_entries hmem
  · cases hmem

end Counts

def LimitsKept (config : LLMProviderConfig) : Prop :=
  ∀ rateLimit, config.rateLimiting = some rateLimit →
    (∀ level, rateLimit.providerLevel = some level → LevelKept .provider level) ∧
      ∀ level, rateLimit.consumerLevel = some level → LevelKept .consumer level

theorem optional_perm_iff {scope : LimitScope} (level : Option RateLimitingScopeConfig) :
    (level.elim [] (emittedLevel scope)).Perm (level.elim [] (expectedLevel scope)) ↔
      ∀ found, level = some found → LevelKept scope found := by
  cases level with
  | none => simp
  | some found => simpa using emittedLevel_perm_iff found

theorem scope_of_mem_elim {scope : LimitScope}
    {limits : RateLimitingScopeConfig → List EmittedLimit}
    (hall : ∀ {limit level}, limit ∈ limits level → limit.scope = scope)
    (level : Option RateLimitingScopeConfig) :
    ∀ limit ∈ level.elim [] limits, limit.scope = scope := by
  intro limit hmem
  cases level with
  | none => cases hmem
  | some level => exact hall hmem

/-- The generated deployment enforces every enabled limit once, and no other, if and only if
windows are written exactly and the resource-wise limits do not hide one another. -/
theorem emittedLimits_perm_expected_iff {config : LLMProviderConfig} {templateHandle : String}
    {spec : LLMProviderDeploymentSpec}
    (hok : generateLLMProviderDeploymentYAML config templateHandle = .ok spec) :
    (emittedLimits spec).Perm (expectedLimits config) ↔ LimitsKept config := by
  rw [(emittedLimits_perm hok).congr_left, emittedByConfig, expectedLimits, LimitsKept]
  cases config.rateLimiting with
  | none => simp
  | some rateLimit =>
    have hprovider : ∀ {limits : List EmittedLimit},
        (∀ limit ∈ limits, limit.scope = .provider) →
        ∀ limit ∈ limits, decide (limit.scope = .provider) = true :=
      fun hall limit hmem => decide_eq_true (hall limit hmem)
    have hconsumer : ∀ {limits : List EmittedLimit},
        (∀ limit ∈ limits, limit.scope = .consumer) →
        ∀ limit ∈ limits, decide (limit.scope = .provider) = false := by
      intro limits hall limit hmem
      rw [hall limit hmem]
      rfl
    rw [append_perm_append_iff
      (hprovider (scope_of_mem_elim scope_of_mem_emittedLevel rateLimit.providerLevel))
      (hconsumer (scope_of_mem_elim scope_of_mem_emittedLevel rateLimit.consumerLevel))
      (hprovider (scope_of_mem_elim scope_of_mem_expectedLevel rateLimit.providerLevel))
      (hconsumer (scope_of_mem_elim scope_of_mem_expectedLevel rateLimit.consumerLevel)),
      optional_perm_iff, optional_perm_iff]
    simp

def limitedProvider (providerLevel consumerLevel : Option RateLimitingScopeConfig) :
    LLMProviderConfig where
  upstreamMain := some { url := "https://llm.example", ref := "" }
  rateLimiting := some { providerLevel := providerLevel, consumerLevel := consumerLevel }

def chatProvider : LLMProviderConfig :=
  limitedProvider (some ⟨some { token := some ⟨true, 1000, ⟨1, "hour"⟩⟩ }, none⟩)
    (some ⟨none, some ⟨{}, [⟨"/chat", { request := some ⟨true, 5, ⟨1, "minute"⟩⟩ }⟩]⟩⟩)

theorem chatProvider_limits_emitted :
    ∃ spec, generateLLMProviderDeploymentYAML chatProvider "openai" = .ok spec ∧
      (emittedLimits spec).Perm (expectedLimits chatProvider) ∧
      expectedLimits chatProvider =
        [⟨.provider, .token, 1000, "1h", "/*"⟩, ⟨.consumer, .request, 5, "1m", "/chat"⟩] := by
  have hok : generateLLMProviderDeploymentYAML chatProvider "openai" = .ok
      { globalPolicies := [⟨"token-based-ratelimit", .totalTokenLimits 1000 "1h" false⟩]
        operationPolicies := [⟨"advanced-ratelimit", "",
          [⟨"/chat", ["*"], .quotas "consumer-request-limit" 5 "1m" "routename"⟩]⟩] } := by
    decide +kernel
  refine ⟨_, hok, (emittedLimits_perm_expected_iff hok).mpr ?_, by decide +kernel⟩
  rintro rateLimit ⟨⟩
  refine ⟨?_, ?_⟩
  · rintro level ⟨⟩ kind
    cases kind <;> decide +kernel
  · rintro level ⟨⟩ kind path
    refine .inl ⟨?_, ?_⟩
    · cases kind <;> simp [defaultLimit, limitAt, RateLimitingLimitConfig.limit]
    · simp only [emittedLimit, anyLimit, firstLimit, List.findSome?_cons, List.find?_cons]
      by_cases hpath : "/chat" = path
      · subst hpath
        cases kind <;> decide +kernel
      · simp [hpath]

def defaultBudget : LLMProviderConfig :=
  limitedProvider none
    (some ⟨none, some ⟨{ token := some ⟨true, 1000, ⟨1, "hour"⟩⟩ }, []⟩⟩)

def longWindow : LLMProviderConfig :=
  limitedProvider (some ⟨some { token := some ⟨true, 1000, ⟨768614336404564651, "day"⟩⟩ }, none⟩)
    none

/-- The default of consumers is not emitted, and a window of many days wraps around to 8 hours. -/
theorem consumer_default_not_emitted :
    generateLLMProviderDeploymentYAML defaultBudget "openai" =
        .ok { globalPolicies := [], operationPolicies := [] } ∧
      expectedLimits defaultBudget = [⟨.consumer, .token, 1000, "1h", "/*"⟩] ∧
      ¬ (emittedLimits { globalPolicies := [], operationPolicies := [] }).Perm
        (expectedLimits defaultBudget) ∧
      (generateLLMProviderDeploymentYAML longWindow "openai").map emittedLimits =
        .ok [⟨.provider, .token, 1000, "8h", "/*"⟩] ∧
      expectedLimits longWindow =
        [⟨.provider, .token, 1000, "18446744073709551624h", "/*"⟩] := by
  decide +kernel

end ApiPlatform.PlatformApi
