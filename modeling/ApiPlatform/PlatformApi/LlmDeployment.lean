import ApiPlatform.Foundation.Fallible
import ApiPlatform.Foundation.GoStrings

/-!
# The deployment of an LLM provider

`generateLLMProviderDeploymentYAML` of `internal/service/llm_deployment.go` for a
provider without policies of its own: the security and the rate limits become
global policies, operation policies and, for consumers, policies that are
promoted to operation policies at the end.
-/

namespace ApiPlatform.PlatformApi

open Foundation

/-! ## Configuration -/

structure RateLimitResetWindow where
  duration : Int64
  unit : String
  deriving DecidableEq

/-- A token, request or cost limit; `count` is the amount of a cost limit. -/
structure RateLimit where
  enabled : Bool
  count : Rat
  reset : RateLimitResetWindow
  deriving DecidableEq

inductive LimitKind where
  | token
  | request
  | cost
  deriving DecidableEq

def limitKinds : List LimitKind :=
  [.token, .request, .cost]

structure RateLimitingLimitConfig where
  token : Option RateLimit := none
  request : Option RateLimit := none
  cost : Option RateLimit := none
  deriving DecidableEq

def RateLimitingLimitConfig.limit (limits : RateLimitingLimitConfig) :
    LimitKind → Option RateLimit
  | .token => limits.token
  | .request => limits.request
  | .cost => limits.cost

structure RateLimitingResourceLimit where
  resource : String
  limit : RateLimitingLimitConfig
  deriving DecidableEq

structure ResourceWiseRateLimitingConfig where
  default : RateLimitingLimitConfig
  resources : List RateLimitingResourceLimit
  deriving DecidableEq

structure RateLimitingScopeConfig where
  global : Option RateLimitingLimitConfig
  resourceWise : Option ResourceWiseRateLimitingConfig
  deriving DecidableEq

structure LLMRateLimitingConfig where
  providerLevel : Option RateLimitingScopeConfig
  consumerLevel : Option RateLimitingScopeConfig
  deriving DecidableEq

structure APIKeySecurity where
  enabled : Option Bool
  key : String
  location : String
  valuePrefix : String
  deriving DecidableEq

structure SecurityConfig where
  enabled : Option Bool
  apiKey : Option APIKeySecurity
  deriving DecidableEq

structure UpstreamEndpoint where
  url : String
  ref : String
  deriving DecidableEq

structure LLMProviderConfig where
  upstreamMain : Option UpstreamEndpoint
  security : Option SecurityConfig := none
  rateLimiting : Option LLMRateLimitingConfig := none
  deriving DecidableEq

/-! ## Policies -/

inductive PolicyParams where
  | empty
  | apiKeyAuth (key location : String) (valuePrefix : Option String)
  | totalTokenLimits (count : Rat) (duration : String) (consumerBased : Bool)
  | limits (requests : Rat) (duration : String)
  | budgetLimits (amount : Rat) (duration : String) (consumerBased : Bool)
  | quotas (name : String) (limit : Rat) (duration : String) (keyType : String)
  deriving DecidableEq

def PolicyParams.consumerBased : PolicyParams → Bool
  | .totalTokenLimits _ _ consumerBased => consumerBased
  | .budgetLimits _ _ consumerBased => consumerBased
  | _ => false

structure GlobalPolicy where
  name : String
  params : PolicyParams
  deriving DecidableEq

structure OperationPolicyPath where
  path : String
  methods : List String
  params : PolicyParams
  deriving DecidableEq

/-- An operation policy, and also one of the deprecated policies, which have the same fields. -/
structure OperationPolicy where
  name : String
  version : String
  paths : List OperationPolicyPath
  deriving DecidableEq

def tokenBasedRateLimitPolicyName : String := "token-based-ratelimit"
def advancedRateLimitPolicyName : String := "advanced-ratelimit"
def basicRateLimitPolicyName : String := "basic-ratelimit"
def apiKeyAuthPolicyName : String := "api-key-auth"
def llmCostPolicyName : String := "llm-cost"
def llmCostBasedRateLimitPolicyName : String := "llm-cost-based-ratelimit"

def hasGlobalPolicy (policies : List GlobalPolicy) (name : String) : Bool :=
  policies.any (·.name = name)

def hasOperationPolicy (policies : List OperationPolicy) (name : String) : Bool :=
  policies.any (·.name = name)

/-- The path goes to the first policy that fits, unless it is there already, or to a new
policy. -/
def addOrAppendPath (fits : OperationPolicy → Bool) (name version : String)
    (path : OperationPolicyPath) : List OperationPolicy → List OperationPolicy
  | [] => [⟨name, version, [path]⟩]
  | policy :: rest =>
    if fits policy then
      if policy.paths.any (·.path = path.path) then policy :: rest
      else { policy with paths := policy.paths ++ [path] } :: rest
    else policy :: addOrAppendPath fits name version path rest

def addOrAppendOperationPolicyPath (policies : List OperationPolicy) (name version : String)
    (path : OperationPolicyPath) : List OperationPolicy :=
  addOrAppendPath (fun policy => policy.name = name ∧ policy.version = version) name version path
    policies

def addOrAppendPolicyPath (policies : List OperationPolicy) (name version : String)
    (path : OperationPolicyPath) : List OperationPolicy :=
  addOrAppendPath (fun policy => policy.name = name ∧ policy.version = version ∧
    policy.paths.head?.all (·.params.consumerBased = path.params.consumerBased))
    name version path policies

/-! ## Rate limits -/

/-- The products wrap around. -/
def formatRateLimitDuration (duration : Int64) (unit : String) : Except String String :=
  if duration ≤ 0 then .error ("duration must be positive, got " ++ toString duration)
  else
    match toLower (trimSpace unit) with
    | "minute" => .ok (toString duration ++ "m")
    | "hour" => .ok (toString duration ++ "h")
    | "day" => .ok (toString (duration * 24) ++ "h")
    | "week" => .ok (toString (duration * 24 * 7) ++ "h")
    | "month" => .ok (toString (duration * 24 * 30) ++ "h")
    | _ => .error ("unsupported reset unit: \"" ++ unit ++ "\"")

inductive LimitScope where
  | provider
  | consumer
  deriving DecidableEq

def limitPolicyName : LimitScope → LimitKind → String
  | _, .token => tokenBasedRateLimitPolicyName
  | .provider, .request => basicRateLimitPolicyName
  | .consumer, .request => advancedRateLimitPolicyName
  | _, .cost => llmCostBasedRateLimitPolicyName

def limitParams (keyType : String) (count : Rat) (duration : String) :
    LimitScope → LimitKind → PolicyParams
  | .provider, .token => .totalTokenLimits count duration false
  | .provider, .request => .limits count duration
  | .provider, .cost => .budgetLimits count duration false
  | .consumer, .token => .totalTokenLimits count duration true
  | .consumer, .request => .quotas "consumer-request-limit" count duration keyType
  | .consumer, .cost => .budgetLimits count duration true

structure DeploymentPolicies where
  globalPolicies : List GlobalPolicy := []
  operationPolicies : List OperationPolicy := []
  policies : List OperationPolicy := []
  deriving DecidableEq

def llmCostPolicy : OperationPolicy :=
  ⟨llmCostPolicyName, "", [⟨"/*", ["*"], .empty⟩]⟩

def emitProviderGlobal (kind : LimitKind) (count : Rat) (duration : String)
    (output : DeploymentPolicies) : DeploymentPolicies :=
  let globalPolicies := output.globalPolicies ++
    [⟨limitPolicyName .provider kind, limitParams "" count duration .provider kind⟩]
  if kind = .cost ∧ hasGlobalPolicy globalPolicies llmCostPolicyName = false then
    { output with globalPolicies := globalPolicies ++ [⟨llmCostPolicyName, .empty⟩] }
  else { output with globalPolicies := globalPolicies }

def emitProviderAt (path : String) (kind : LimitKind) (count : Rat) (duration : String)
    (output : DeploymentPolicies) : DeploymentPolicies :=
  let operationPolicies := addOrAppendOperationPolicyPath output.operationPolicies
    (limitPolicyName .provider kind) ""
    ⟨path, ["*"], limitParams "" count duration .provider kind⟩
  if kind = .cost ∧ hasOperationPolicy operationPolicies llmCostPolicyName = false then
    { output with operationPolicies := operationPolicies ++ [llmCostPolicy] }
  else { output with operationPolicies := operationPolicies }

/-- The tracker goes with a consumer's cost limit unless it is there. -/
def addConsumerCost (kind : LimitKind) (output : DeploymentPolicies) : DeploymentPolicies :=
  if kind = .cost ∧ hasOperationPolicy output.policies llmCostPolicyName = false ∧
      hasGlobalPolicy output.globalPolicies llmCostPolicyName = false then
    { output with policies := output.policies ++ [llmCostPolicy] }
  else output

def emitConsumerGlobal (kind : LimitKind) (count : Rat) (duration : String)
    (output : DeploymentPolicies) : DeploymentPolicies :=
  let name := limitPolicyName .consumer kind
  let params := limitParams "apiname" count duration .consumer kind
  if kind = .request then
    { output with globalPolicies := output.globalPolicies ++ [⟨name, params⟩] }
  else
    addConsumerCost kind
      { output with policies := output.policies ++ [⟨name, "", [⟨"/*", ["*"], params⟩]⟩] }

def emitConsumerAt (path : String) (kind : LimitKind) (count : Rat) (duration : String)
    (output : DeploymentPolicies) : DeploymentPolicies :=
  addConsumerCost kind
    { output with
      policies := addOrAppendPolicyPath output.policies (limitPolicyName .consumer kind) ""
        ⟨path, ["*"], limitParams "routename" count duration .consumer kind⟩ }

def LimitKind.text : LimitKind → String
  | .token => "token"
  | .request => "request"
  | .cost => "cost"

/-- The limits of one block, one kind after the other; `who` and `place` are parts of the error
text. -/
def emitLimits (emit : LimitKind → Rat → String → DeploymentPolicies → DeploymentPolicies)
    (who place : String) (limits : RateLimitingLimitConfig) (output : DeploymentPolicies) :
    Except String DeploymentPolicies :=
  limitKinds.foldlM (fun output kind =>
    match (limits.limit kind).filter (·.enabled) with
    | none => .ok output
    | some limit => do
      let duration ← (formatRateLimitDuration limit.reset.duration limit.reset.unit).mapError
        fun problem => "invalid " ++ who ++ kind.text ++ " reset window" ++ place ++ ": " ++ problem
      .ok (emit kind limit.count duration output)) output

def emitProviderLevel (level : RateLimitingScopeConfig) (output : DeploymentPolicies) :
    Except String DeploymentPolicies :=
  match level.global, level.resourceWise with
  | some limits, _ => emitLimits emitProviderGlobal "" "" limits output
  | none, some resourceWise => do
    let output ← emitLimits (emitProviderAt "/*") "" "" resourceWise.default output
    resourceWise.resources.foldlM (fun output entry =>
      emitLimits (emitProviderAt entry.resource) "" (" for resource " ++ entry.resource)
        entry.limit output) output
  | none, none => .ok output

def emitConsumerLevel (level : RateLimitingScopeConfig) (output : DeploymentPolicies) :
    Except String DeploymentPolicies :=
  match level.global, level.resourceWise with
  | some limits, _ => emitLimits emitConsumerGlobal "consumer " "" limits output
  | none, some resourceWise =>
    resourceWise.resources.foldlM (fun output entry =>
      emitLimits (emitConsumerAt entry.resource) "consumer " (" for resource " ++ entry.resource)
        entry.limit output) output
  | none, none => .ok output

def emitOptional (emit : RateLimitingScopeConfig → DeploymentPolicies →
    Except String DeploymentPolicies) (level : Option RateLimitingScopeConfig)
    (output : DeploymentPolicies) : Except String DeploymentPolicies :=
  match level with
  | none => .ok output
  | some level => emit level output

/-! ## The deployment -/

def securityPolicies (security : Option SecurityConfig) : Except String (List GlobalPolicy) :=
  match security.bind fun security =>
      if security.enabled = some true then security.apiKey.filter (·.enabled = some true)
      else none with
  | none => .ok []
  | some apiKey =>
    let key := trimSpace apiKey.key
    let location := toLower (trimSpace apiKey.location)
    let valuePrefix := trimSpace apiKey.valuePrefix
    if key = "" then .error "invalid api key security configuration: key is required"
    else if location ≠ "header" ∧ location ≠ "query" then
      .error ("invalid api key security configuration: in must be 'header' or 'query', got \"" ++
        apiKey.location ++ "\"")
    else
      .ok [⟨apiKeyAuthPolicyName,
        .apiKeyAuth key location (if valuePrefix = "" then none else some valuePrefix)⟩]

def lastIndex {Item : Type} (name : Item → String) (wanted : String) (items : List Item) :
    Option Nat :=
  (items.reverse.findIdx? (name · = wanted)).map fun index => items.length - 1 - index

/-- The cost limit comes before the tracker of the costs: the last of each are exchanged. -/
def orderCostPolicies {Item : Type} (name : Item → String) (items : List Item) : List Item :=
  match lastIndex name llmCostPolicyName items,
      lastIndex name llmCostBasedRateLimitPolicyName items with
  | some cost, some rateLimit =>
    match items[cost]?, items[rateLimit]? with
    | some tracker, some limit =>
      if cost < rateLimit then (items.set cost limit).set rateLimit tracker else items
    | _, _ => items
  | _, _ => items

structure LLMProviderDeploymentSpec where
  globalPolicies : List GlobalPolicy
  operationPolicies : List OperationPolicy
  deriving DecidableEq

def emitPolicies (config : LLMProviderConfig) : Except String DeploymentPolicies := do
  let globalPolicies ← securityPolicies config.security
  let output : DeploymentPolicies := { globalPolicies := globalPolicies }
  match config.rateLimiting with
  | none => .ok output
  | some rateLimit => do
    let output ← emitOptional emitProviderLevel rateLimit.providerLevel output
    emitOptional emitConsumerLevel rateLimit.consumerLevel output

def generateLLMProviderDeploymentYAML (config : LLMProviderConfig) (templateHandle : String) :
    Except String LLMProviderDeploymentSpec :=
  if templateHandle = "" then
    .error "generateLLMProviderDeploymentYAML: template handle is empty"
  else
    match config.upstreamMain with
    | none => .error "The LLM provider must define an upstream main configuration."
    | some main =>
      if main.url = "" ∧ main.ref = "" then
        .error "The LLM provider upstream main must specify either a url or a ref."
      else
        (emitPolicies config).map fun output =>
          { globalPolicies := orderCostPolicies GlobalPolicy.name output.globalPolicies
            operationPolicies :=
              orderCostPolicies OperationPolicy.name output.operationPolicies ++
                orderCostPolicies OperationPolicy.name output.policies }

end ApiPlatform.PlatformApi
