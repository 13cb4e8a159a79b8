import ApiPlatform.Foundation.GoMaps

/-!
# The runtime deploy configuration

The kind-agnostic intermediate representation of a deployed API
(`pkg/models/runtime_deploy_config.go`).  The Envoy translator and the policy
translator both read it.
-/

namespace ApiPlatform.Controller

open Foundation

abbrev Duration := Int

abbrev Time := Int

/-- A policy parameter.  The controller builds texts, extraction identifiers and
lists of headers; every other value is passed on unread, as its JSON text. -/
inductive ParamValue where
  | text (value : String)
  | extraction (location identifier : String)
  | headers (entries : List (String × String))
  | json (raw : String)
  deriving DecidableEq

abbrev Params := GoMap String ParamValue

structure LLMMetadata where
  templateHandle : String
  providerName : String
  deriving DecidableEq

structure Metadata where
  uuid : String
  kind : String
  handle : String
  version : String
  displayName : String
  projectID : String
  llm : Option LLMMetadata
  deriving DecidableEq

structure RouteHeaderMatch where
  name : String
  value : String
  type : String
  deriving DecidableEq

structure RouteTimeout where
  timeout : Option Duration
  idleTimeout : Option Duration
  deriving DecidableEq

structure UpstreamInfo where
  clusterName : String
  url : String
  basePath : String
  deriving DecidableEq

structure RouteUpstream where
  clusterKey : String
  useClusterHeader : Bool
  defaultCluster : String
  default : Option UpstreamInfo
  deriving DecidableEq

structure Route where
  method : String
  path : String
  operationPath : String
  pathMatchType : String
  matchHeaders : List RouteHeaderMatch
  vhost : String
  autoHostRewrite : Bool
  timeout : Option RouteTimeout
  upstream : RouteUpstream
  order : Nat
  deriving DecidableEq

structure Policy where
  name : String
  version : String
  params : Params
  executionCondition : Option String
  deriving DecidableEq

structure PolicyChain where
  policies : List Policy
  deriving DecidableEq

structure Endpoint where
  host : String
  port : Nat
  weight : Option Nat
  deriving DecidableEq

structure UpstreamCluster where
  /-- The name of the upstream definition; empty for the main and sandbox clusters. -/
  name : String
  basePath : String
  endpoints : List Endpoint
  tlsEnabled : Bool
  connectTimeout : Option Duration
  deriving DecidableEq

structure RuntimeDeployConfig where
  metadata : Metadata
  context : String
  policyChainResolver : String
  routes : GoMap String Route
  policyChains : GoMap String PolicyChain
  upstreamClusters : GoMap String UpstreamCluster
  sensitiveValues : List String
  deriving DecidableEq

end ApiPlatform.Controller
