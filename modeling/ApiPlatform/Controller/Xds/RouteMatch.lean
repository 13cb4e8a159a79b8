import ApiPlatform.Foundation.GoStrings
import ApiPlatform.Controller.Models

/-!
# Envoy routes

How an operation becomes an Envoy route (`pkg/xds/translator.go`):
`setMatchPathSpecifier` renders the path, `buildMatchHeaders` the method and
header matchers, and `createRouteFromRDC` the whole route.
-/

namespace ApiPlatform.Controller.Xds

open Foundation

/-! ## Envoy's route type -/

inductive PathSpecifier where
  | path (value : String)
  | safeRegex (regex : String)
  | pathPrefix (value : String)
  | unset
  deriving DecidableEq

inductive ValueMatcher where
  | exact (value : String)
  | safeRegex (regex : String)
  deriving DecidableEq

structure HeaderMatcher where
  name : String
  specifier : ValueMatcher
  deriving DecidableEq

structure QueryParameterMatcher where
  name : String
  specifier : ValueMatcher
  deriving DecidableEq

structure RouteMatch where
  pathSpecifier : PathSpecifier
  headers : List HeaderMatcher
  queryParameters : List QueryParameterMatcher
  deriving DecidableEq

inductive ClusterSpecifier where
  | clusterHeader (header : String)
  | cluster (name : String)
  deriving DecidableEq

structure RegexMatchAndSubstitute where
  regex : String
  substitution : String
  deriving DecidableEq

structure RouteAction where
  timeout : Duration
  idleTimeout : Duration
  clusterSpecifier : ClusterSpecifier
  autoHostRewrite : Bool
  regexRewrite : RegexMatchAndSubstitute
  deriving DecidableEq

inductive Action where
  | route (action : RouteAction)
  | directResponse (status : Nat) (body : String)
  deriving DecidableEq

structure EnvoyRoute where
  name : String
  routeMatch : RouteMatch
  action : Action
  requestHeadersToRemove : List String
  deriving DecidableEq

structure TranslatorConfig where
  routeTimeoutMs : Nat
  routeIdleTimeoutMs : Nat
  appendMCPResourcePathToBackend : Bool
  deriving DecidableEq

/-! ## Paths with parameters -/

def paramPattern : List Char :=
  "[^/]+".toList

/-- The loop of `pathToRegex`: the text from the first escaped opening brace to
the first escaped closing brace becomes `[^/]+`. -/
def replaceParams : Nat → List Char → List Char
  | 0, regex => regex
  | fuel + 1, regex =>
    match indexOf ['\\', '\x7b'] regex, indexOf ['\\', '\x7d'] regex with
    | some start, some stop =>
      if start < stop then
        replaceParams fuel (regex.take start ++ paramPattern ++ regex.drop (stop + 2))
      else regex
    | _, _ => regex

def pathToRegex (path : String) : String :=
  let regex := quoteChars path.toList
  "^" ++ String.ofList (replaceParams regex.length regex) ++ "$"

/-- One pass over an unescaped path: literal characters are escaped and each
parameter becomes `[^/]+`.  The flag says whether the pass is inside a
parameter.  A brace without its partner ends the replacement. -/
def expandParams : Bool → List Char → List Char
  | _, [] => []
  | true, char :: rest => expandParams (char != '\x7d') rest
  | false, char :: rest =>
    if char = '\x7b' ∧ '\x7d' ∈ rest then paramPattern ++ expandParams true rest
    else if char = '\x7b' ∨ char = '\x7d' then quoteChars (char :: rest)
    else quoteChar char ++ expandParams false rest

theorem expandParams_inside {name : List Char} (hname : '\x7d' ∉ name) (rest : List Char) :
    expandParams true (name ++ '\x7d' :: rest) = expandParams false rest := by
  induction name with
  | nil => simp [expandParams]
  | cons char name ih =>
    have hchar : char ≠ '\x7d' := fun heq => hname (by simp [heq])
    have htail : '\x7d' ∉ name := fun hmem => hname (List.mem_cons_of_mem _ hmem)
    have hflag : (char != '\x7d') = true := by simpa using hchar
    simp [expandParams, hflag, ih htail]

theorem replaceParams_of_unpaired {pre rest : List Char} {char : Char} (fuel : Nat)
    (hopen : '\x7b' ∉ pre) (hclose : '\x7d' ∉ pre)
    (hchar : char = '\x7d' ∨ (char = '\x7b' ∧ '\x7d' ∉ rest)) :
    replaceParams fuel (pre ++ quoteChars (char :: rest)) = pre ++ quoteChars (char :: rest) := by
  cases fuel with
  | zero => rfl
  | succ fuel =>
    rcases hchar with rfl | ⟨rfl, hrest⟩
    · have hstop : indexOf ['\\', '\x7d'] (pre ++ '\\' :: '\x7d' :: quoteChars rest) =
          some pre.length := indexOf_pair (by decide) _ hclose
      have hquote : quoteChars ('\x7d' :: rest) = '\\' :: '\x7d' :: quoteChars rest := rfl
      rw [hquote, replaceParams, hstop]
      cases hstart : indexOf ['\\', '\x7b'] (pre ++ '\\' :: '\x7d' :: quoteChars rest) with
      | none => rfl
      | some start =>
        have hpre : '\x7b' ∉ pre ++ ['\\', '\x7d'] := by simp [hopen]
        have hstart' : indexOf ['\\', '\x7b']
            ((pre ++ ['\\', '\x7d']) ++ quoteChars rest) = some start := by
          simpa using hstart
        have hle := indexOf_pair_ge hpre hstart'
        have hlt : ¬ start < pre.length := by
          simp only [List.length_append, List.length_cons, List.length_nil] at hle
          omega
        simp [hlt]
    · have hnone : indexOf ['\\', '\x7d'] (pre ++ quoteChars ('\x7b' :: rest)) = none := by
        refine indexOf_eq_none_of_not_mem '\x7d' (by simp) ?_
        rw [List.mem_append, mem_quoteChars_iff _ (by decide)]
        simp [hclose, hrest]
      rw [replaceParams, hnone]
      cases indexOf ['\\', '\x7b'] (pre ++ quoteChars ('\x7b' :: rest)) <;> rfl

theorem replaceParams_of_paired {pre name rest : List Char} (fuel : Nat)
    (hopen : '\x7b' ∉ pre) (hclose : '\x7d' ∉ pre) (hname : '\x7d' ∉ name) :
    replaceParams (fuel + 1) (pre ++ quoteChars ('\x7b' :: (name ++ '\x7d' :: rest))) =
      replaceParams fuel (pre ++ paramPattern ++ quoteChars rest) := by
  have hquote : quoteChars ('\x7b' :: (name ++ '\x7d' :: rest)) =
      '\\' :: '\x7b' :: (quoteChars name ++ '\\' :: '\x7d' :: quoteChars rest) := by
    rw [quoteChars_cons, quoteChars_append, quoteChars_cons]
    rfl
  have hstart : indexOf ['\\', '\x7b'] (pre ++ '\\' :: '\x7b' ::
      (quoteChars name ++ '\\' :: '\x7d' :: quoteChars rest)) = some pre.length :=
    indexOf_pair (by decide) _ hopen
  have hbefore : '\x7d' ∉ pre ++ '\\' :: '\x7b' :: quoteChars name := by
    simp [hclose, mem_quoteChars_iff, hname]
  have hsplit : pre ++ '\\' :: '\x7b' ::
      (quoteChars name ++ '\\' :: '\x7d' :: quoteChars rest) =
      (pre ++ '\\' :: '\x7b' :: quoteChars name) ++ '\\' :: '\x7d' :: quoteChars rest := by
    simp
  have hstop : indexOf ['\\', '\x7d'] (pre ++ '\\' :: '\x7b' ::
      (quoteChars name ++ '\\' :: '\x7d' :: quoteChars rest)) =
      some (pre ++ '\\' :: '\x7b' :: quoteChars name).length := by
    rw [hsplit]
    exact indexOf_pair (by decide) _ hbefore
  have hlt : pre.length < (pre ++ '\\' :: '\x7b' :: quoteChars name).length := by
    simp
  have hdrop : (pre ++ '\\' :: '\x7b' ::
      (quoteChars name ++ '\\' :: '\x7d' :: quoteChars rest)).drop
        ((pre ++ '\\' :: '\x7b' :: quoteChars name).length + 2) = quoteChars rest := by
    rw [hsplit, ← List.drop_drop, List.drop_left]
    rfl
  rw [hquote, replaceParams, hstart, hstop]
  simp only [hlt, if_true, hdrop, List.take_left]

theorem replaceParams_eq_expandParams : ∀ (text pre : List Char) (fuel : Nat),
    '\x7b' ∉ pre → '\x7d' ∉ pre → text.length ≤ fuel →
      replaceParams fuel (pre ++ quoteChars text) = pre ++ expandParams false text
  | [], pre, fuel, hopen, hclose, _ => by
    have hnone : indexOf ['\\', '\x7b'] pre = none :=
      indexOf_eq_none_of_not_mem '\x7b' (by simp) hopen
    cases fuel with
    | zero => simp [replaceParams, expandParams]
    | succ fuel => simp [replaceParams, expandParams, hnone]
  | char :: rest, pre, fuel, hopen, hclose, hfuel => by
    by_cases hparam : char = '\x7b' ∧ '\x7d' ∈ rest
    · obtain ⟨rfl, hmem⟩ := hparam
      obtain ⟨name, after, rfl, hname⟩ := List.eq_append_cons_of_mem hmem
      obtain ⟨fuel, rfl⟩ : ∃ smaller, fuel = smaller + 1 :=
        ⟨fuel - 1, by simp only [List.length_cons] at hfuel; omega⟩
      have hopen' : '\x7b' ∉ pre ++ paramPattern := by simp [hopen, paramPattern]
      have hclose' : '\x7d' ∉ pre ++ paramPattern := by simp [hclose, paramPattern]
      have hafter : after.length ≤ fuel := by
        simp only [List.length_cons, List.length_append] at hfuel
        omega
      rw [replaceParams_of_paired fuel hopen hclose hname,
        replaceParams_eq_expandParams after _ fuel hopen' hclose' hafter]
      simp [expandParams, expandParams_inside hname]
    · by_cases hbrace : char = '\x7b' ∨ char = '\x7d'
      · have hunpaired : char = '\x7d' ∨ (char = '\x7b' ∧ '\x7d' ∉ rest) := by
          rcases hbrace with rfl | rfl
          · exact .inr ⟨rfl, fun hmem => hparam ⟨rfl, hmem⟩⟩
          · exact .inl rfl
        rw [replaceParams_of_unpaired fuel hopen hclose hunpaired]
        simp [expandParams, hparam, hbrace]
      · have hopen' : '\x7b' ∉ pre ++ quoteChar char := by
          have := mem_quoteChars_iff '\x7b' (by decide) [char]
          simp_all [eq_comm]
        have hclose' : '\x7d' ∉ pre ++ quoteChar char := by
          have := mem_quoteChars_iff '\x7d' (by decide) [char]
          simp_all [eq_comm]
        have hrest : rest.length ≤ fuel := by
          simp only [List.length_cons] at hfuel
          omega
        have hih := replaceParams_eq_expandParams rest _ fuel hopen' hclose' hrest
        rw [quoteChars_cons, ← List.append_assoc, hih]
        simp [expandParams, hparam, hbrace]
  termination_by text => text.length
  decreasing_by
    · subst_vars
      simp only [List.length_cons, List.length_append]
      omega
    · simp

theorem pathToRegex_eq (path : String) :
    pathToRegex path = "^" ++ String.ofList (expandParams false path.toList) ++ "$" := by
  have hfuel : path.toList.length ≤ (quoteChars path.toList).length :=
    length_le_length_quoteChars path.toList
  have hloop := replaceParams_eq_expandParams path.toList [] _ (by simp) (by simp) hfuel
  rw [List.nil_append, List.nil_append] at hloop
  rw [pathToRegex, hloop]

/-- The number of bytes of an expanded path: five for each parameter. -/
def templateSize : Bool → List Char → Nat
  | _, [] => 0
  | true, char :: rest => templateSize (char != '\x7d') rest
  | false, char :: rest =>
    if char = '\x7b' ∧ '\x7d' ∈ rest then 5 + templateSize true rest
    else if char = '\x7b' ∨ char = '\x7d' then quotedSize (char :: rest)
    else quotedSize [char] + templateSize false rest

theorem utf8Len_expandParams (text : List Char) : ∀ inside : Bool,
    String.utf8Len (expandParams inside text) = templateSize inside text := by
  induction text with
  | nil =>
    intro inside
    rfl
  | cons char rest ih =>
    intro inside
    cases inside with
    | true => exact ih _
    | false =>
      unfold expandParams templateSize
      split_ifs
      · rw [String.utf8Len_append, ih]
        rfl
      · exact utf8Len_quoteChars _
      · rw [String.utf8Len_append, ih, utf8Len_quoteChar]
        simp [quotedSize]

theorem len_pathToRegex (path : String) :
    len (pathToRegex path) = templateSize false path.toList + 2 := by
  have hstart : len "^" = 1 := rfl
  have hstop : len "$" = 1 := rfl
  rw [pathToRegex_eq, len_append, len_append, hstart, hstop, len_ofList, utf8Len_expandParams]
  omega

/-! ## Matchers -/

def isWildcardPath (operationPath : String) : Bool :=
  hasSuffix operationPath "/*"

def hasParams (operationPath : String) : Bool :=
  contains operationPath "\x7b"

def setMatchPathSpecifier (fullPath operationPath pathMatchType : String) : PathSpecifier :=
  if isWildcardPath operationPath then
    .safeRegex ("^" ++ quoteMeta (trimSuffix fullPath "/*") ++ "(?:/.*)?$")
  else if hasParams operationPath then
    .safeRegex (pathToRegex fullPath)
  else if operationPath = "/" then
    .safeRegex ("^" ++ quoteMeta (trimSuffix fullPath "/") ++ "/?$")
  else if equalFold pathMatchType "Exact" then
    .path fullPath
  else
    .safeRegex ("^" ++ quoteMeta fullPath ++ "/?$")

def buildMatchHeader (header : RouteHeaderMatch) : HeaderMatcher :=
  { name := toLower (trimSpace header.name)
    specifier :=
      if trimSpace header.type = "RegularExpression" then .safeRegex header.value
      else .exact header.value }

def buildMatchHeaders (method : String) (rdcRoute : Route) : List HeaderMatcher :=
  { name := ":method", specifier := .exact method } ::
    rdcRoute.matchHeaders.map buildMatchHeader

/-! ## Routes -/

def routeTimeoutOrDefault (configured : Option Duration) (defaultMs : Nat) : Duration :=
  configured.getD (defaultMs * 1000000)

def targetUpstreamHeader : String :=
  "x-target-upstream"

def mcpResourcePath : String :=
  "/mcp"

def routeRewrite (config : TranslatorConfig) (rdcRoute : Route)
    (rdc : RuntimeDeployConfig) : RegexMatchAndSubstitute :=
  let fullPath := rdcRoute.path
  let operationPath := rdcRoute.operationPath
  let basePath :=
    match rdc.upstreamClusters.lookup rdcRoute.upstream.clusterKey with
    | some cluster => cluster.basePath
    | none => ""
  let upstreamIsRoot := basePath = "/" ∨ basePath = ""
  let upstreamPath := if upstreamIsRoot then "" else basePath
  let escapedContext := quoteMeta (trimSuffix fullPath operationPath)
  if rdc.metadata.kind = "Mcp" ∧ operationPath = mcpResourcePath ∧
      config.appendMCPResourcePathToBackend = false then
    { regex := "^" ++ quoteMeta fullPath ++ "/?$"
      substitution := if upstreamPath = "" then "/" else upstreamPath }
  else if operationPath = "/" then
    { regex := "^" ++ escapedContext ++ "/?$", substitution := upstreamPath ++ "/" }
  else if isWildcardPath operationPath ∧ upstreamIsRoot then
    { regex := "^" ++ escapedContext ++ "/?(.*)$", substitution := "/\\1" }
  else
    { regex := "^" ++ escapedContext ++ "(.*)$", substitution := upstreamPath ++ "\\1" }

def createRouteFromRDC (config : TranslatorConfig) (routeKey : String) (rdcRoute : Route)
    (rdc : RuntimeDeployConfig) : EnvoyRoute :=
  { name := routeKey
    routeMatch :=
      { pathSpecifier :=
          setMatchPathSpecifier rdcRoute.path rdcRoute.operationPath rdcRoute.pathMatchType
        headers := buildMatchHeaders rdcRoute.method rdcRoute
        queryParameters := [] }
    action := .route
      { timeout := routeTimeoutOrDefault (rdcRoute.timeout.bind (·.timeout))
          config.routeTimeoutMs
        idleTimeout := routeTimeoutOrDefault (rdcRoute.timeout.bind (·.idleTimeout))
          config.routeIdleTimeoutMs
        clusterSpecifier :=
          if rdcRoute.upstream.useClusterHeader then .clusterHeader targetUpstreamHeader
          else .cluster rdcRoute.upstream.clusterKey
        autoHostRewrite := rdcRoute.autoHostRewrite
        regexRewrite := routeRewrite config rdcRoute rdc }
    requestHeadersToRemove :=
      if rdcRoute.upstream.useClusterHeader then [targetUpstreamHeader] else [] }

end ApiPlatform.Controller.Xds
