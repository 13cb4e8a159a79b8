import ApiPlatform.Operator.GatewayApi
import ApiPlatform.Foundation.Fallible

/-!
# Attachment of routes to listeners

Which listeners of a gateway accept an HTTPRoute, and the virtual hosts that
are derived from their hostnames.
-/

namespace ApiPlatform.Operator

open Foundation

/-! ## Gates before the hostname -/

def normalizeParentRefSectionName (ref : ParentReference) : String :=
  ref.sectionName.getD ""

def normalizeParentRefPort (ref : ParentReference) : Int :=
  ref.port.getD 0

def parentRefAttachesToListener (ref : ParentReference) (listener : Listener) : Bool :=
  let sectionName := normalizeParentRefSectionName ref
  let port := normalizeParentRefPort ref
  (sectionName = "" || sectionName = listener.name) && (port = 0 || port = listener.port)

def supportedRouteKinds : List String := ["HTTPRoute"]

def listenerAllowsHTTPRouteKind (listener : Listener) : Bool :=
  match listener.allowedRoutes with
  | none => true
  | some allowed =>
    allowed.kinds.isEmpty || allowed.kinds.any fun kind =>
      (kind.group.getD "" = "" || kind.group = some gatewayGroupName) &&
        supportedRouteKinds.contains kind.kind

def namespacesAllowedByListener (c : Client) (listener : Listener) (gw : Gateway) :
    Except String (List String) :=
  let gwNs := if gw.ns = "" then "default" else gw.ns
  match (listener.allowedRoutes.bind (·.namespaces)).bind fun namespaces =>
      namespaces.fromNamespaces.map fun source => (source, namespaces.selector) with
  | none => .ok [gwNs]
  | some (.all, _) => c.listNamespaces
  | some (.same, _) => .ok [gwNs]
  | some (.selector, none) => .ok [gwNs]
  | some (.selector, some selector) => c.listNamespaces.map (·.filter selector)
  | some (.none, _) => .ok []
  | some (.other, _) => .ok [gwNs]

def namespaceAllowed (routeNamespace : String) (allowed : List String) : Bool :=
  allowed.any (· = routeNamespace)

/-! ## Hostnames at the listener -/

def normalizeHostname (host : String) : String :=
  let host := toLower (trimSpace host)
  match indexOf [':'] host.toList with
  | some position => String.ofList (host.toList.take position)
  | none => host

def hostnameWildcardMatch (wildcardHost preciseHost : String) : Bool :=
  let suffix := String.ofList (wildcardHost.toList.drop 1)
  if suffix = "" || !hasPrefix suffix "." then false
  else if !hasSuffix preciseHost suffix then false
  else
    let start := trimSuffix preciseHost suffix
    start ≠ "" && !contains start "."

def hostnamePairMatch (a b : String) : Bool :=
  if a = b then true
  else if hasPrefix a "*." then hostnameWildcardMatch a b
  else if hasPrefix b "*." then hostnameWildcardMatch b a
  else false

def hostnamesIntersect (listenerHostname : Option String) (routeHostnames : List String) : Bool :=
  match listenerHostname with
  | none => true
  | some listenerHost =>
    listenerHost = "" || routeHostnames.isEmpty ||
      routeHostnames.any fun rh =>
        hostnamePairMatch (normalizeHostname listenerHost) (normalizeHostname rh)

def httpRouteAcceptedByListener (c : Client) (gw : Gateway) (route : HTTPRoute)
    (parentRef : ParentReference) (listener : Listener) : Except String Bool :=
  if !parentRefAttachesToListener parentRef listener then .ok false
  else if !listenerAllowsHTTPRouteKind listener then .ok false
  else do
    let allowedNs ← namespacesAllowedByListener c listener gw
    if !namespaceAllowed route.ns allowedNs then .ok false
    else .ok (hostnamesIntersect listener.hostname route.hostnames)

/-! ## Virtual hosts -/

def hostnameMatchesWildcard (host wildcard : String) : Bool :=
  let suffix := String.ofList (wildcard.toList.drop 1)
  hasSuffix host suffix && len host > len suffix

def intersectHostname (routeHost listenerHost : String) : Option String :=
  if listenerHost = "" then some routeHost
  else if routeHost = "" ∨ routeHost = listenerHost then some listenerHost
  else
    match hasPrefix routeHost "*.", hasPrefix listenerHost "*." with
    | false, true => if hostnameMatchesWildcard routeHost listenerHost then some routeHost else none
    | true, false =>
      if hostnameMatchesWildcard listenerHost routeHost then some listenerHost else none
    | true, true =>
      if hasSuffix routeHost (String.ofList (listenerHost.toList.drop 1)) then some routeHost
      else if hasSuffix listenerHost (String.ofList (routeHost.toList.drop 1)) then
        some listenerHost
      else none
    | false, false => none

/-- The hosts in the order of their first appearance; the first one is the main host. -/
def addHost (hosts : List String) (host : String) : List String :=
  let host := trimSpace host
  if host = "" ∨ host ∈ hosts then hosts else hosts ++ [host]

def listenerHosts (routeHostnames : List String) (listener : Listener) : List String :=
  let listenerHost := listener.hostname.getD ""
  match routeHostnames with
  | [] => if listenerHost = "" then [] else [listenerHost]
  | _ => routeHostnames.filterMap fun rh => intersectHostname rh listenerHost

def deriveVhostsFrom (c : Client) (gw : Gateway) (route : HTTPRoute)
    (pairs : List (ParentReference × Listener)) : Except String (List String) :=
  pairs.foldlM (fun hosts (target, listener) => do
    let accepted ← httpRouteAcceptedByListener c gw route target listener
    if !accepted then .ok hosts
    else .ok ((listenerHosts route.hostnames listener).foldl addHost hosts)) []

def deriveVhosts (c : Client) (parentGW : Option Gateway) (route : HTTPRoute)
    (parentTargets : List ParentReference) : Except String (String × List String) :=
  match parentGW with
  | none => .ok ("", [])
  | some gw => do
    let hosts ← deriveVhostsFrom c gw route
      (parentTargets.flatMap fun target => gw.listeners.map fun listener => (target, listener))
    match hosts with
    | [] => .ok ("", [])
    | main :: additional => .ok (main, additional)

end ApiPlatform.Operator
