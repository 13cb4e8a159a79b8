import ApiPlatform.Operator.GatewayApi
import ApiPlatform.Foundation.Fallible

/-!
# Backends of a route

Every backendRef of an HTTPRoute is resolved to a Service and the URL under
which the gateway reaches it.  A failed reference is recorded and does not stop
the resolution.
-/

namespace ApiPlatform.Operator

open Foundation

variable {c : Client} {routeNS dnsBase : String} {b : HTTPBackendRef}

inductive BackendReason where
  | invalidKind
  | backendNotFound
  | refNotPermitted
  | unsupportedValue
  | resolvedRefs
  deriving DecidableEq

structure ResolvedBackendRef where
  ruleIndex : Nat
  backendIndex : Nat
  serviceNS : String
  serviceName : String
  port : Int
  url : String
  weight : Option Int
  ok : Bool
  reason : Option BackendReason
  message : String
  deriving DecidableEq

structure HTTPRouteBackendResolution where
  refs : List ResolvedBackendRef
  placeholderURL : String
  deriving DecidableEq

def defaultKubernetesClusterDNS : String := "cluster.local"

def trimChar (mark : Char) (text : String) : String :=
  String.ofList (((text.toList.dropWhile (· = mark)).reverse.dropWhile (· = mark)).reverse)

def effectiveClusterDNSBase (domain : String) : String :=
  let base := trimChar '.' (trimSpace domain)
  if base = "" then defaultKubernetesClusterDNS else base

def quoted (text : String) : String := "\"" ++ text ++ "\""

/-! ## Services -/

def resolveServicePort (svcNS svcName : String) (svc : Service) (refPort : Option Int) :
    Except String Int :=
  let service := svcNS ++ "/" ++ svcName
  let want := refPort.getD 0
  match svc.ports with
  | [] => .error ("service " ++ service ++ " has no ports")
  | first :: rest =>
    if 0 < want then
      if (first :: rest).any (·.port = want) then .ok want
      else .error ("service " ++ service ++ " has no port " ++ toString want ++
        " in spec.ports (backendRefs[].port must match a Service spec.ports.port)")
    else if rest ≠ [] then
      .error ("service " ++ service ++ " has " ++ toString (rest.length + 1) ++
        " ports; set backendRefs[].port to a spec.ports.port value to disambiguate")
    else .ok first.port

def clusterIPNone : String := "None"

/-- The port that the runtime connects to: a headless Service is reached on the pods' port. -/
def serviceConnectionPort (svcNS svcName : String) (svc : Service) (servicePort : Int) :
    Except String Int :=
  if svc.clusterIP ≠ clusterIPNone then .ok servicePort
  else
    match svc.ports.find? (·.port = servicePort) with
    | none => .ok servicePort
    | some port =>
      match port.targetPort with
      | .string name =>
        .error ("headless service " ++ svcNS ++ "/" ++ svcName ++ " port " ++
          toString servicePort ++ " uses named targetPort " ++ quoted name ++
          "; named target ports are not supported for headless backends, " ++
          "use a numeric targetPort")
      | .int value => if 0 < value then .ok value else .ok servicePort

/-! ## Reference grants -/

def referenceGrantAllowsHTTPRouteToService (spec : ReferenceGrantSpec) (routeNS svcName : String) :
    Bool :=
  (spec.fromRefs.any fun source =>
    source.ns = routeNS && source.kind = "HTTPRoute" && source.group = gatewayGroupName) &&
  spec.toRefs.any fun target =>
    target.kind = "Service" && target.group = "" &&
      (target.name = none || target.name = some svcName)

def ensureCrossNamespaceServiceReferenceGrant (c : Client)
    (routeNS serviceNS serviceName : String) : Except (BackendReason × String) Unit :=
  if serviceNS = routeNS then .ok ()
  else
    match c.listReferenceGrants serviceNS with
    | .error err =>
      .error (.resolvedRefs,
        "list ReferenceGrant in namespace " ++ quoted serviceNS ++ ": " ++ err)
    | .ok grants =>
      if grants.any (referenceGrantAllowsHTTPRouteToService · routeNS serviceName) then .ok ()
      else .error (.refNotPermitted,
        "cross-namespace backend Service " ++ serviceNS ++ "/" ++ serviceName ++
        ": no ReferenceGrant in namespace " ++ quoted serviceNS ++
        " allowing HTTPRoute from namespace " ++ quoted routeNS ++ " to core/Service " ++
        quoted serviceName)

/-! ## Resolution -/

/-- The Service behind a reference: its name, its port and its URL. -/
def resolveService (c : Client) (routeNS dnsBase : String) (b : HTTPBackendRef) :
    Except String (Except (BackendReason × String) (String × Int × String)) :=
  let svcNS := match b.ns with
    | some ns => if ns = "" then routeNS else ns
    | none => routeNS
  match ensureCrossNamespaceServiceReferenceGrant c routeNS svcNS b.name with
  | .error failure => .ok (.error failure)
  | .ok () =>
    match c.getService svcNS b.name with
    | .error err => .error ("get backend Service " ++ svcNS ++ "/" ++ b.name ++ ": " ++ err)
    | .ok none => .ok (.error (.backendNotFound,
        "backend Service " ++ svcNS ++ "/" ++ b.name ++ " not found"))
    | .ok (some svc) =>
      match resolveServicePort svcNS b.name svc b.port with
      | .error err => .ok (.error (.backendNotFound, err))
      | .ok portNum =>
        match serviceConnectionPort svcNS b.name svc portNum with
        | .error err => .ok (.error (.unsupportedValue, err))
        | .ok connPort =>
          .ok (.ok (svcNS, portNum, "http://" ++ b.name ++ "." ++ svcNS ++ ".svc." ++
            dnsBase ++ ":" ++ toString connPort))

/-- The gates before the Service is read; `none` for a reference without a name. -/
def resolveBackendRef (c : Client) (routeNS dnsBase : String) (ruleIdx backendIdx : Nat)
    (b : HTTPBackendRef) : Except String (Option ResolvedBackendRef) :=
  let failed := fun (reason : BackendReason) (message : String) =>
    some { ruleIndex := ruleIdx, backendIndex := backendIdx, serviceNS := "", serviceName := ""
           port := 0, url := "", weight := b.weight, ok := false, reason := some reason
           message := message : ResolvedBackendRef }
  let kind := b.kind.getD ""
  let group := b.group.getD ""
  if kind ≠ "" ∧ kind ≠ "Service" then
    .ok (failed .invalidKind ("unsupported backendRef kind " ++ quoted kind))
  else if group ≠ "" then
    .ok (failed .invalidKind ("unsupported backendRef group " ++ quoted group))
  else if b.name = "" then .ok none
  else
    match resolveService c routeNS dnsBase b with
    | .error err => .error err
    | .ok (.error (reason, message)) => .ok (failed reason message)
    | .ok (.ok (svcNS, portNum, url)) =>
      .ok (some { ruleIndex := ruleIdx, backendIndex := backendIdx, serviceNS := svcNS
                  serviceName := b.name, port := portNum, url := url, weight := b.weight
                  ok := true, reason := none, message := "" })

/-- The backendRefs of the route in the order of its rules, with their indices. -/
def indexedBackendRefs (route : HTTPRoute) : List (Nat × Nat × HTTPBackendRef) :=
  route.rules.zipIdx.flatMap fun (rule, ruleIdx) =>
    rule.backendRefs.zipIdx.map fun (b, backendIdx) => (ruleIdx, backendIdx, b)

def resolveHTTPRouteBackendRefs (c : Client) (route : HTTPRoute) (clusterDomain : String) :
    Except String HTTPRouteBackendResolution := do
  let resolved ← (indexedBackendRefs route).mapM fun (ruleIdx, backendIdx, b) =>
    resolveBackendRef c route.ns (effectiveClusterDNSBase clusterDomain) ruleIdx backendIdx b
  let refs := resolved.filterMap id
  pure { refs := refs, placeholderURL := ((refs.find? (·.ok)).map (·.url)).getD "" }

/-! ## What a resolution holds -/

theorem resolveService_url_ne {svcNS url : String} {port : Int}
    (hrun : resolveService c routeNS dnsBase b = .ok (.ok (svcNS, port, url))) : url ≠ "" := by
  unfold resolveService at hrun
  dsimp only at hrun
  split at hrun
  · cases hrun
  split at hrun
  · cases hrun
  · cases hrun
  split at hrun
  · cases hrun
  split at hrun
  · cases hrun
  · cases hrun
    simp

theorem resolveBackendRef_some {ruleIdx backendIdx : Nat} {ref : ResolvedBackendRef}
    (hrun : resolveBackendRef c routeNS dnsBase ruleIdx backendIdx b = .ok (some ref)) :
    ref.ruleIndex = ruleIdx ∧ (ref.ok = true → ref.url ≠ "") := by
  unfold resolveBackendRef at hrun
  dsimp only at hrun
  split at hrun
  · cases hrun
    exact ⟨rfl, nofun⟩
  split at hrun
  · cases hrun
    exact ⟨rfl, nofun⟩
  split at hrun
  · cases hrun
  split at hrun
  · cases hrun
  · cases hrun
    exact ⟨rfl, nofun⟩
  next hservice =>
    cases hrun
    exact ⟨rfl, fun _ => resolveService_url_ne hservice⟩

/-- The references are in the order of the rules, and a resolved one has a URL. -/
structure Resolves (route : HTTPRoute) (refs : List ResolvedBackendRef) : Prop where
  sorted : refs.Pairwise (·.ruleIndex ≤ ·.ruleIndex)
  inRules : ∀ ref ∈ refs, ref.ruleIndex < route.rules.length
  url_ne : ∀ ref ∈ refs, ref.ok = true → ref.url ≠ ""

theorem mem_indexedBackendRefs {route : HTTPRoute} {ruleIdx backendIdx : Nat}
    (hmem : (ruleIdx, backendIdx, b) ∈ indexedBackendRefs route) :
    ruleIdx < route.rules.length := by
  obtain ⟨⟨rule, index⟩, hrule, hmem⟩ := List.mem_flatMap.mp hmem
  obtain ⟨_, -, heq⟩ := List.mem_map.mp hmem
  cases heq
  simpa using (List.mem_zipIdx hrule).2.1

theorem indexedBackendRefs_sorted (route : HTTPRoute) :
    (indexedBackendRefs route).Pairwise (·.1 ≤ ·.1) := by
  have hrules : route.rules.zipIdx.Pairwise (·.2 < ·.2) := by
    rw [← List.pairwise_map, List.zipIdx_map_snd]
    exact List.pairwise_lt_range'
  refine List.pairwise_flatMap.mpr ⟨fun (rule, ruleIdx) _ => ?_, ?_⟩
  · exact List.pairwise_map.mpr (List.pairwise_of_forall fun _ _ => le_rfl)
  · refine hrules.imp fun {left right} hlt first hfirst second hsecond => ?_
    obtain ⟨_, -, rfl⟩ := List.mem_map.mp hfirst
    obtain ⟨_, -, rfl⟩ := List.mem_map.mp hsecond
    exact hlt.le

theorem resolved_sorted {items : List (Nat × Nat × HTTPBackendRef)}
    {resolved : List (Option ResolvedBackendRef)} (hpairs : List.Forall₂ (fun item result =>
      resolveBackendRef c routeNS dnsBase item.1 item.2.1 item.2.2 = .ok result) items resolved)
    (hsorted : items.Pairwise (·.1 ≤ ·.1)) :
    (resolved.filterMap id).Pairwise (·.ruleIndex ≤ ·.ruleIndex) ∧
      ∀ ref ∈ resolved.filterMap id, ∃ item ∈ items, ref.ruleIndex = item.1 ∧
        (ref.ok = true → ref.url ≠ "") := by
  induction hpairs with
  | nil => exact ⟨.nil, nofun⟩
  | @cons item result items resolved hitem _ ih =>
    obtain ⟨hfirst, hsorted⟩ := List.pairwise_cons.mp hsorted
    obtain ⟨hpairwise, hfrom⟩ := ih hsorted
    have hfrom : ∀ ref ∈ resolved.filterMap id, ∃ other ∈ item :: items,
        ref.ruleIndex = other.1 ∧ (ref.ok = true → ref.url ≠ "") := by
      intro ref hmem
      obtain ⟨other, hother, hspec⟩ := hfrom ref hmem
      exact ⟨other, List.mem_cons_of_mem _ hother, hspec⟩
    cases result with
    | none => exact ⟨hpairwise, hfrom⟩
    | some ref =>
      obtain ⟨hindex, hurl⟩ := resolveBackendRef_some hitem
      refine ⟨List.pairwise_cons.mpr ⟨fun other hmem => ?_, hpairwise⟩, fun other hmem => ?_⟩
      · obtain ⟨origin, horigin, heq, -⟩ := (ih hsorted).2 other hmem
        rw [hindex, heq]
        exact hfirst origin horigin
      · rcases List.mem_cons.mp hmem with rfl | hmem
        · exact ⟨item, List.mem_cons_self, hindex, hurl⟩
        · exact hfrom other hmem

theorem resolveHTTPRouteBackendRefs_ok {route : HTTPRoute} {clusterDomain : String}
    {resolution : HTTPRouteBackendResolution}
    (hrun : resolveHTTPRouteBackendRefs c route clusterDomain = .ok resolution) :
    Resolves route resolution.refs ∧
      resolution.placeholderURL = ((resolution.refs.find? (·.ok)).map (·.url)).getD "" := by
  obtain ⟨resolved, hresolved, hrun⟩ := bind_eq_ok.mp hrun
  obtain rfl := Except.ok.inj hrun
  obtain ⟨hsorted, hfrom⟩ :=
    resolved_sorted (forall₂_of_mapM hresolved) (indexedBackendRefs_sorted route)
  refine ⟨⟨hsorted, fun ref hmem => ?_, fun ref hmem => ?_⟩, rfl⟩
  · obtain ⟨item, hitem, hindex, -⟩ := hfrom ref hmem
    rw [hindex]
    exact mem_indexedBackendRefs hitem
  · obtain ⟨_, -, -, hurl⟩ := hfrom ref hmem
    exact hurl

end ApiPlatform.Operator
