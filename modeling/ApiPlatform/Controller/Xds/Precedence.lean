import ApiPlatform.Foundation.Regex
import ApiPlatform.Controller.Xds.RouteSorter

/-!
# Which operation serves a request

Envoy takes the first route of the virtual host whose matchers accept the
request.  The routes stand in the order of `sortRoutesByPriority`, so a route
of a specific path is never shadowed by a more general one exactly when it
outranks it.  Outranking is decided by the sizes of the rendered patterns.
-/

namespace ApiPlatform.Controller.Xds

open Foundation

/-! ## Envoy's choice -/

structure Request where
  path : String
  headers : List (String × String)
  query : List (String × String)
  deriving DecidableEq

section Matching

-- Envoy's regular expression engine, on a pattern and a whole text.
variable (regexMatch : String → String → Bool)

def ValueMatcher.accepts : ValueMatcher → Option String → Bool
  | .exact expected, some value => value == expected
  | .safeRegex regex, some value => regexMatch regex value
  | _, none => false

def PathSpecifier.accepts : PathSpecifier → String → Bool
  | .path expected, requestPath => requestPath == expected
  | .safeRegex regex, requestPath => regexMatch regex requestPath
  | .pathPrefix start, requestPath => hasPrefix requestPath start
  | .unset, _ => false

def EnvoyRoute.accepts (route : EnvoyRoute) (request : Request) : Bool :=
  route.routeMatch.pathSpecifier.accepts regexMatch request.path &&
    route.routeMatch.headers.all (fun header =>
      header.specifier.accepts regexMatch (request.headers.lookup header.name)) &&
    route.routeMatch.queryParameters.all (fun param =>
      param.specifier.accepts regexMatch (request.query.lookup param.name))

structure Operation where
  routeKey : String
  route : Route
  rdc : RuntimeDeployConfig

def Operation.envoyRoute (config : TranslatorConfig) (operation : Operation) : EnvoyRoute :=
  createRouteFromRDC config operation.routeKey operation.route operation.rdc

def Operation.accepts (config : TranslatorConfig) (operation : Operation)
    (request : Request) : Bool :=
  (operation.envoyRoute config).accepts regexMatch request

def pickRoute (config : TranslatorConfig) (operations : List Operation)
    (request : Request) : Option EnvoyRoute :=
  (sortRoutesByPriority (operations.map (·.envoyRoute config))).find?
    (·.accepts regexMatch request)

theorem notAfter_of_pickRoute {config : TranslatorConfig} {operations : List Operation}
    {request : Request} {picked : EnvoyRoute} {other : Operation}
    (hpicked : pickRoute regexMatch config operations request = some picked)
    (hmem : other ∈ operations) (haccepts : other.accepts regexMatch config request = true) :
    NotAfter picked (other.envoyRoute config) :=
  rel_of_find?_of_pairwise notAfter_refl (sortRoutesByPriority_pairwise _) hpicked
    (mem_sortRoutesByPriority.mpr (List.mem_map_of_mem hmem)) haccepts

theorem pickRoute_pair {config : TranslatorConfig} {first second : Operation}
    {request : Request} (hrel : NotAfter (first.envoyRoute config) (second.envoyRoute config))
    (haccepts : first.accepts regexMatch config request = true) :
    pickRoute regexMatch config [first, second] request = some (first.envoyRoute config) := by
  have haccepts' : (first.envoyRoute config).accepts regexMatch request = true := haccepts
  rw [pickRoute, List.map_cons, List.map_cons, List.map_nil, sortRoutesByPriority_pair hrel]
  simp [haccepts']

end Matching

/-! ## Kinds of paths -/

def IsPlain (route : Route) : Prop :=
  '*' ∉ route.operationPath.toList ∧ '\x7b' ∉ route.operationPath.toList

def IsWildcard (route : Route) : Prop :=
  isWildcardPath route.operationPath = true

def IsParameterised (route : Route) : Prop :=
  isWildcardPath route.operationPath = false ∧ hasParams route.operationPath = true

instance (route : Route) : Decidable (IsPlain route) :=
  inferInstanceAs (Decidable (_ ∧ _))

instance (route : Route) : Decidable (IsWildcard route) :=
  inferInstanceAs (Decidable (_ = _))

instance (route : Route) : Decidable (IsParameterised route) :=
  inferInstanceAs (Decidable (_ ∧ _))

/-- The text of the full path before its first parameter or its wildcard. -/
def literalPrefix (route : Route) : List Char :=
  (trimSuffix route.path "/*").toList.takeWhile (· != '\x7b')

/-- `specific` names its requests more precisely than `general`: a plain path
against a wildcard or parameterised one, or a parameterised path against a
wildcard with a shorter literal part. -/
def MoreSpecific (specific general : Route) : Prop :=
  (IsPlain specific ∧ (IsWildcard general ∨ IsParameterised general)) ∨
    (IsParameterised specific ∧ IsWildcard general ∧
      (literalPrefix general).length < (literalPrefix specific).length)

instance (specific general : Route) : Decidable (MoreSpecific specific general) :=
  inferInstanceAs (Decidable (_ ∨ _))

def SameMatchers (left right : Route) : Prop :=
  (buildMatchHeaders left.method left).Perm (buildMatchHeaders right.method right)

instance (left right : Route) : Decidable (SameMatchers left right) :=
  inferInstanceAs (Decidable (List.Perm _ _))

/-! ## Sizes of the rendered patterns -/

def rendersExact (route : Route) : Bool :=
  !isWildcardPath route.operationPath && !hasParams route.operationPath &&
    route.operationPath != "/" && equalFold route.pathMatchType "Exact"

/-- The number of bytes of the pattern of a path that is not rendered exactly:
its escaped literal text and the fixed text of its form. -/
def patternSize (route : Route) : Nat :=
  if isWildcardPath route.operationPath then quotedSize (trimSuffix route.path "/*").toList + 10
  else if hasParams route.operationPath then templateSize false route.path.toList + 2
  else if route.operationPath = "/" then quotedSize (trimSuffix route.path "/").toList + 4
  else quotedSize route.path.toList + 4

def Outranks (specific general : Route) : Prop :=
  rendersExact specific = true ∨ patternSize general < patternSize specific

instance (specific general : Route) : Decidable (Outranks specific general) :=
  inferInstanceAs (Decidable (_ ∨ _))

theorem pathSpecifier_of_rendersExact {route : Route} (hexact : rendersExact route = true) :
    setMatchPathSpecifier route.path route.operationPath route.pathMatchType =
      .path route.path := by
  simp only [rendersExact, Bool.and_eq_true, Bool.not_eq_true', bne_iff_ne, ne_eq] at hexact
  obtain ⟨⟨⟨hwildcard, hparams⟩, hroot⟩, hfold⟩ := hexact
  simp [setMatchPathSpecifier, hwildcard, hparams, hroot, hfold]

theorem len_pattern_suffix (text : String) :
    len ("^" ++ quoteMeta text ++ "(?:/.*)?$") = quotedSize text.toList + 10 ∧
      len ("^" ++ quoteMeta text ++ "/?$") = quotedSize text.toList + 4 := by
  have hstart : len "^" = 1 := rfl
  have hwildcard : len "(?:/.*)?$" = 9 := rfl
  have hslash : len "/?$" = 3 := rfl
  simp only [len_append, len_quoteMeta, hstart, hwildcard, hslash]
  omega

theorem pathSpecifier_of_not_rendersExact {route : Route} (hexact : rendersExact route = false) :
    ∃ regex, len regex = patternSize route ∧
      setMatchPathSpecifier route.path route.operationPath route.pathMatchType =
        .safeRegex regex := by
  unfold patternSize setMatchPathSpecifier
  split_ifs with hwildcard hparams hroot hfold
  · exact ⟨_, (len_pattern_suffix _).1, rfl⟩
  · exact ⟨_, len_pathToRegex _, rfl⟩
  · exact ⟨_, (len_pattern_suffix _).2, rfl⟩
  · simp [rendersExact, hwildcard, hparams, hroot, hfold] at hexact
  · exact ⟨_, (len_pattern_suffix _).2, rfl⟩

theorem rendersExact_of_moreSpecific {specific general : Route}
    (hspecific : MoreSpecific specific general) : rendersExact general = false := by
  rcases hspecific with ⟨-, hwildcard | ⟨-, hparams⟩⟩ | ⟨-, hwildcard, -⟩
  · rw [IsWildcard] at hwildcard
    simp [rendersExact, hwildcard]
  · simp [rendersExact, hparams]
  · rw [IsWildcard] at hwildcard
    simp [rendersExact, hwildcard]

/-! ## Precedence -/

theorem less_iff_of_sameMatchers (config : TranslatorConfig) {left right : Operation}
    (hmatchers : SameMatchers left.route right.route) :
    less (left.envoyRoute config).routeMatch (right.envoyRoute config).routeMatch = true ↔
      getPathMatchType (right.envoyRoute config).routeMatch <
          getPathMatchType (left.envoyRoute config).routeMatch ∨
        getPathMatchType (left.envoyRoute config).routeMatch =
            getPathMatchType (right.envoyRoute config).routeMatch ∧
          pathMatchCount (left.envoyRoute config).routeMatch <
            pathMatchCount (right.envoyRoute config).routeMatch := by
  have hlength : (left.envoyRoute config).routeMatch.headers.length =
      (right.envoyRoute config).routeMatch.headers.length := hmatchers.length_eq
  have hexact : numberOfExactHeaderMatches (left.envoyRoute config).routeMatch.headers =
      numberOfExactHeaderMatches (right.envoyRoute config).routeMatch.headers :=
    hmatchers.countP_eq _
  have hquery : (left.envoyRoute config).routeMatch.queryParameters =
      (right.envoyRoute config).routeMatch.queryParameters := rfl
  unfold less
  rw [hlength, hexact, hquery]
  split_ifs <;> simp only [decide_eq_true_eq, gt_iff_lt] <;> omega

theorem less_iff_outranks (config : TranslatorConfig) {specific general : Operation}
    (hspecific : MoreSpecific specific.route general.route)
    (hmatchers : SameMatchers specific.route general.route) :
    less (general.envoyRoute config).routeMatch (specific.envoyRoute config).routeMatch = true ↔
      Outranks specific.route general.route := by
  obtain ⟨regex, hregex, hgeneral⟩ :=
    pathSpecifier_of_not_rendersExact (rendersExact_of_moreSpecific hspecific)
  have hgeneralType : getPathMatchType (general.envoyRoute config).routeMatch = 1 := by
    simp [getPathMatchType, Operation.envoyRoute, createRouteFromRDC, hgeneral]
  have hgeneralCount : pathMatchCount (general.envoyRoute config).routeMatch =
      patternSize general.route := by
    simp [pathMatchCount, Operation.envoyRoute, createRouteFromRDC, hgeneral, hregex]
  rw [less_iff_of_sameMatchers config (List.Perm.symm hmatchers), hgeneralType, hgeneralCount,
    Outranks]
  cases hexact : rendersExact specific.route with
  | true =>
    have htype : getPathMatchType (specific.envoyRoute config).routeMatch = 0 := by
      simp [getPathMatchType, Operation.envoyRoute, createRouteFromRDC,
        pathSpecifier_of_rendersExact hexact]
    simp [htype]
  | false =>
    obtain ⟨pattern, hpattern, hspecifier⟩ := pathSpecifier_of_not_rendersExact hexact
    have htype : getPathMatchType (specific.envoyRoute config).routeMatch = 1 := by
      simp [getPathMatchType, Operation.envoyRoute, createRouteFromRDC, hspecifier]
    have hcount : pathMatchCount (specific.envoyRoute config).routeMatch =
        patternSize specific.route := by
      simp [pathMatchCount, Operation.envoyRoute, createRouteFromRDC, hspecifier, hpattern]
    simp [htype, hcount]

/-- A specific operation is protected from a general one in every deployment
that holds both, whatever the order and the other operations, exactly when it
outranks it. -/
theorem general_not_picked_iff_outranks (regexMatch : String → String → Bool)
    (config : TranslatorConfig) (specific general : Operation) (request : Request)
    (hspecific : MoreSpecific specific.route general.route)
    (hmatchers : SameMatchers specific.route general.route)
    (hacceptsSpecific : specific.accepts regexMatch config request = true)
    (hacceptsGeneral : general.accepts regexMatch config request = true) :
    (∀ operations : List Operation, specific ∈ operations → general ∈ operations →
        pickRoute regexMatch config operations request ≠ some (general.envoyRoute config)) ↔
      Outranks specific.route general.route := by
  rw [← less_iff_outranks config hspecific hmatchers]
  constructor
  · intro hprotected
    by_contra hless
    have hrel : NotAfter (general.envoyRoute config) (specific.envoyRoute config) := by
      simpa [NotAfter] using hless
    exact hprotected [general, specific] (by simp) (by simp)
      (pickRoute_pair regexMatch hrel hacceptsGeneral)
  · intro hless operations hmem _ hpicked
    have hrel := notAfter_of_pickRoute regexMatch hpicked hmem hacceptsSpecific
    rw [NotAfter, hless] at hrel
    contradiction

/-! ## One API with a wildcard operation -/

def shopRdc : RuntimeDeployConfig where
  metadata :=
    { uuid := "u1", kind := "RestApi", handle := "shop", version := "v1", displayName := "Shop"
      projectID := "", llm := none }
  context := "/shop"
  policyChainResolver := "route-key"
  routes := ∅
  policyChains := ∅
  upstreamClusters := ∅
  sensitiveValues := []

def shopOperation (operationPath : String) : Operation where
  routeKey := "GET|/shop" ++ operationPath ++ "|*"
  route :=
    { method := "GET", path := "/shop" ++ operationPath, operationPath := operationPath
      pathMatchType := "", matchHeaders := [], vhost := "*", autoHostRewrite := true
      timeout := none
      upstream :=
        { clusterKey := "upstream_main_shop_80", useClusterHeader := false, defaultCluster := ""
          default := none }
      order := 0 }
  rdc := shopRdc

def shopConfig : TranslatorConfig :=
  { routeTimeoutMs := 60000, routeIdleTimeoutMs := 300000
    appendMCPResourcePathToBackend := false }

def getRequest (path : String) : Request :=
  { path := path, headers := [(":method", "GET")], query := [] }

theorem shop_orders_not_shadowed :
    Outranks (shopOperation "/orders").route (shopOperation "/*").route ∧
      (∀ operations : List Operation, shopOperation "/orders" ∈ operations →
        shopOperation "/*" ∈ operations →
          pickRoute Regex.fullMatch shopConfig operations (getRequest "/shop/orders") ≠
            some ((shopOperation "/*").envoyRoute shopConfig)) := by
  refine ⟨by decide, ?_⟩
  exact (general_not_picked_iff_outranks Regex.fullMatch shopConfig (shopOperation "/orders")
    (shopOperation "/*") (getRequest "/shop/orders") (by decide) (by decide) (by decide)
    (by decide)).mpr (by decide)

/-- `GET /shop/a` is served by the operation `/*` although the API has an
operation `/a`, in whichever order the two stand. -/
theorem shop_plain_path_shadowed :
    MoreSpecific (shopOperation "/a").route (shopOperation "/*").route ∧
      SameMatchers (shopOperation "/a").route (shopOperation "/*").route ∧
      (shopOperation "/a").accepts Regex.fullMatch shopConfig (getRequest "/shop/a") = true ∧
      (shopOperation "/*").accepts Regex.fullMatch shopConfig (getRequest "/shop/a") = true ∧
      pickRoute Regex.fullMatch shopConfig [shopOperation "/a", shopOperation "/*"]
        (getRequest "/shop/a") = some ((shopOperation "/*").envoyRoute shopConfig) ∧
      pickRoute Regex.fullMatch shopConfig [shopOperation "/*", shopOperation "/a"]
        (getRequest "/shop/a") = some ((shopOperation "/*").envoyRoute shopConfig) := by
  decide

end ApiPlatform.Controller.Xds
