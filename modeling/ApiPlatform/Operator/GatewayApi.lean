import ApiPlatform.Foundation.GoMaps
import ApiPlatform.Foundation.GoStrings

/-!
# Gateway API resources

The parts of the Kubernetes Gateway API objects that the operator reads when it
attaches an HTTPRoute to a gateway and compiles it, and the cluster that it
reads them from.
-/

namespace ApiPlatform.Operator

open Foundation

/-! ## Gateways -/

structure RouteGroupKind where
  group : Option String
  kind : String
  deriving DecidableEq

inductive FromNamespaces where
  | all
  | same
  | selector
  | none
  | other
  deriving DecidableEq

abbrev LabelSelector := String → Bool

structure RouteNamespaces where
  fromNamespaces : Option FromNamespaces
  selector : Option LabelSelector

structure AllowedRoutes where
  namespaces : Option RouteNamespaces
  kinds : List RouteGroupKind

structure Listener where
  name : String
  hostname : Option String
  port : Int
  allowedRoutes : Option AllowedRoutes

structure Gateway where
  ns : String
  listeners : List Listener

structure ParentReference where
  sectionName : Option String
  port : Option Int
  deriving DecidableEq

/-! ## Routes -/

inductive PathMatchType where
  | exact
  | pathPrefix
  | regularExpression
  deriving DecidableEq

structure HTTPPathMatch where
  type : Option PathMatchType
  value : Option String
  deriving DecidableEq

inductive HeaderMatchType where
  | exact
  | regularExpression
  deriving DecidableEq

structure HTTPHeaderMatch where
  type : Option HeaderMatchType
  name : String
  value : String
  deriving DecidableEq

structure HTTPRouteMatch where
  path : Option HTTPPathMatch
  headers : List HTTPHeaderMatch
  method : Option String
  deriving DecidableEq

structure HTTPHeaderFilter where
  set : List (String × String)
  add : List (String × String)
  remove : List String
  deriving DecidableEq

inductive HTTPPathModifier where
  | fullPath (replaceFullPath : Option String)
  | prefixMatch (replacePrefixMatch : Option String)
  | other
  deriving DecidableEq

structure HTTPRequestRedirectFilter where
  scheme : Option String
  hostname : Option String
  path : Option HTTPPathModifier
  port : Option Int
  statusCode : Option Int
  deriving DecidableEq

inductive HTTPRouteFilter where
  | requestHeaderModifier (filter : Option HTTPHeaderFilter)
  | requestRedirect (filter : Option HTTPRequestRedirectFilter)
  | extensionRef (group kind name : String)
  | other
  deriving DecidableEq

structure HTTPBackendRef where
  group : Option String
  kind : Option String
  ns : Option String
  name : String
  port : Option Int
  weight : Option Int
  deriving DecidableEq

structure HTTPRouteRule where
  «matches» : List HTTPRouteMatch
  filters : List HTTPRouteFilter
  backendRefs : List HTTPBackendRef
  deriving DecidableEq

structure HTTPRoute where
  name : String
  ns : String
  annotations : GoMap String String
  hostnames : List String
  rules : List HTTPRouteRule

/-! ## Services -/

inductive IntOrString where
  | int (value : Int)
  | string (value : String)
  deriving DecidableEq

structure ServicePort where
  port : Int
  targetPort : IntOrString
  deriving DecidableEq

structure Service where
  clusterIP : String
  ports : List ServicePort
  deriving DecidableEq

structure ReferenceGrantFrom where
  group : String
  kind : String
  ns : String
  deriving DecidableEq

structure ReferenceGrantTo where
  group : String
  kind : String
  name : Option String
  deriving DecidableEq

structure ReferenceGrantSpec where
  fromRefs : List ReferenceGrantFrom
  toRefs : List ReferenceGrantTo
  deriving DecidableEq

/-- What the operator reads from the API server; an error is a failed read. -/
structure Client where
  listNamespaces : Except String (List String)
  listReferenceGrants : String → Except String (List ReferenceGrantSpec)
  getService : String → String → Except String (Option Service)

def gatewayGroupName : String := "gateway.networking.k8s.io"

end ApiPlatform.Operator
