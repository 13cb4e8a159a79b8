import ApiPlatform.Controller.Models

/-!
# API configurations

The part of the management API's types that the transformers read
(`pkg/api/management`): REST API specifications, LLM providers and LLM provider
templates.  An optional list is a list; the source treats an absent list and
an empty one alike.
-/

namespace ApiPlatform.Controller.Api

structure Policy where
  name : String
  version : String
  params : Params
  executionCondition : Option String
  deriving DecidableEq

structure Resilience where
  timeout : Option String
  idleTimeout : Option String
  deriving DecidableEq

structure OperationHeaderMatch where
  name : String
  value : String
  type : Option String
  deriving DecidableEq

structure OperationMatch where
  method : String
  path : String
  pathType : Option String
  headers : List OperationHeaderMatch
  deriving DecidableEq

structure Operation where
  matchBlock : Option OperationMatch
  method : Option String
  path : Option String
  policies : List Policy
  resilience : Option Resilience
  deriving DecidableEq

namespace Operation

def effectiveMethod (operation : Operation) : String :=
  match operation.matchBlock with
  | some block => block.method
  | none => operation.method.getD ""

def effectivePath (operation : Operation) : String :=
  match operation.matchBlock with
  | some block => block.path
  | none => operation.path.getD ""

def effectivePathMatchType (operation : Operation) : String :=
  match operation.matchBlock with
  | some block => block.pathType.getD "Exact"
  | none => ""

def effectiveHeaders (operation : Operation) : List OperationHeaderMatch :=
  match operation.matchBlock with
  | some block => block.headers
  | none => []

end Operation

structure Upstream where
  url : Option String
  ref : Option String
  hostRewrite : Option String
  deriving DecidableEq

structure UpstreamTarget where
  url : String
  weight : Option Nat
  deriving DecidableEq

structure UpstreamDefinition where
  name : String
  basePath : Option String
  connectTimeout : Option String
  upstreams : List UpstreamTarget
  deriving DecidableEq

structure Vhosts where
  main : String
  sandbox : Option String
  deriving DecidableEq

structure APIConfigData where
  displayName : String
  version : String
  context : String
  vhosts : Option Vhosts
  upstreamMain : Upstream
  upstreamSandbox : Option Upstream
  upstreamDefinitions : List UpstreamDefinition
  policies : List Policy
  resilience : Option Resilience
  operations : List Operation
  deriving DecidableEq

/-! ## LLM providers -/

structure RouteException where
  path : String
  methods : List String
  deriving DecidableEq

structure OperationPolicyPath where
  path : String
  methods : List String
  params : Params
  deriving DecidableEq

structure OperationPolicy where
  name : String
  version : String
  executionCondition : Option String
  paths : List OperationPolicyPath
  deriving DecidableEq

structure LLMPolicy where
  name : String
  version : String
  paths : List OperationPolicyPath
  deriving DecidableEq

structure UpstreamAuth where
  type : String
  header : String
  value : String
  deriving DecidableEq

structure LLMProviderConfigData where
  displayName : String
  version : String
  context : Option String
  vhost : Option String
  template : String
  upstreamUrl : Option String
  upstreamRef : Option String
  upstreamAuth : Option UpstreamAuth
  upstreamDefinitions : List UpstreamDefinition
  accessControlMode : String
  exceptions : List RouteException
  globalPolicies : List Policy
  operationPolicies : List OperationPolicy
  policies : List LLMPolicy
  resilience : Option Resilience
  deriving DecidableEq

/-! ## LLM provider templates -/

structure ExtractionIdentifier where
  location : String
  identifier : String
  deriving DecidableEq

structure ExtractionFields where
  requestModel : Option ExtractionIdentifier
  responseModel : Option ExtractionIdentifier
  promptTokens : Option ExtractionIdentifier
  completionTokens : Option ExtractionIdentifier
  totalTokens : Option ExtractionIdentifier
  remainingTokens : Option ExtractionIdentifier
  deriving DecidableEq

structure ResourceMapping where
  resource : String
  fields : ExtractionFields
  deriving DecidableEq

structure LLMProviderTemplateData where
  fields : ExtractionFields
  resources : List ResourceMapping
  deriving DecidableEq

end ApiPlatform.Controller.Api
