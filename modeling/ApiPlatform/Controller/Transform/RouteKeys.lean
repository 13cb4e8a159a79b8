import ApiPlatform.Foundation.Selection
import ApiPlatform.Controller.Transform.Registry

/-!
# Which operations share a route key

The key of a route is joined from the method, the full path, the virtual host
and a digest of the header matches.  It does not mention the type of the path
match.  As long as no part contains a separator, operations that share a key
agree in everything that the key mentions, and no operation that agrees in it
may have another type of path match.
-/

namespace ApiPlatform.Controller.Transform

open Foundation RestAPITransformer
open Controller.Api
open Controller.Xds

/-! ## What an operation matches -/

/-- A header match as Envoy sees it: names are matched without regard to case, and a missing
type means an exact match. -/
structure HeaderCriterion where
  name : String
  type : String
  value : String
  deriving DecidableEq

def headerCriterion (header : RouteHeaderMatch) : HeaderCriterion :=
  { name := toLower (trimSpace header.name)
    type := if header.type = "" then "Exact" else header.type
    value := header.value }

def HeaderCriterion.text (criterion : HeaderCriterion) : String :=
  criterion.name ++ "\x1f" ++ criterion.type ++ "\x1f" ++ criterion.value

def headerCriteria (operation : Operation) : List HeaderCriterion :=
  (routeHeaderMatches operation).map headerCriterion

/-- The operations match the same requests, but for the type of the path match. -/
structure SameCriteria (left right : Operation) : Prop where
  method : left.effectiveMethod = right.effectiveMethod
  path : left.effectivePath = right.effectivePath
  headers : (headerCriteria left).Perm (headerCriteria right)

structure SameMatch (left right : Operation) : Prop extends SameCriteria left right where
  type : left.effectivePathMatchType = right.effectivePathMatchType

/-- Operations that differ at most in the type of the path match do not differ in it. -/
def TypesAgree (operations : List Operation) : Prop :=
  ∀ left ∈ operations, ∀ right ∈ operations, SameCriteria left right →
    left.effectivePathMatchType = right.effectivePathMatchType

instance (left right : Operation) : Decidable (SameCriteria left right) :=
  decidable_of_iff
    (left.effectiveMethod = right.effectiveMethod ∧ left.effectivePath = right.effectivePath ∧
      (headerCriteria left).Perm (headerCriteria right))
    ⟨fun h => ⟨h.1, h.2.1, h.2.2⟩, fun h => ⟨h.method, h.path, h.headers⟩⟩

instance (operations : List Operation) : Decidable (TypesAgree operations) :=
  inferInstanceAs (Decidable (∀ left ∈ operations, ∀ right ∈ operations, _ → _))

/-! ## Discriminators -/

def discriminatorText (operation : Operation) : String :=
  String.intercalate "\x1e"
    (((routeHeaderMatches operation).map canonicalHeader).insertionSort (· ≤ ·))

def discriminator (digest : String → String) (operation : Operation) : String :=
  headerMatchDiscriminator digest (routeHeaderMatches operation)

/-- What the digest is relied on for: its result is a non-empty text without `|`, and it tells
the header matches of the given operations apart. -/
structure DigestFor (digest : String → String) (operations : List Operation) : Prop where
  ne_empty : ∀ text, digest text ≠ ""
  no_bar : ∀ text, '|' ∉ (digest text).toList
  injective : ∀ left ∈ operations, ∀ right ∈ operations,
    digest (discriminatorText left) = digest (discriminatorText right) →
      discriminatorText left = discriminatorText right

/-- The text contains none of the separators of the texts that are hashed. -/
def FreeOfSeparators (text : String) : Prop :=
  '\x1e' ∉ text.toList ∧ '\x1f' ∉ text.toList

structure HeaderCriterion.Separable (criterion : HeaderCriterion) : Prop where
  name : FreeOfSeparators criterion.name
  type : FreeOfSeparators criterion.type
  value : FreeOfSeparators criterion.value

instance (criterion : HeaderCriterion) : Decidable criterion.Separable :=
  decidable_of_iff
    (('\x1e' ∉ criterion.name.toList ∧ '\x1f' ∉ criterion.name.toList) ∧
      ('\x1e' ∉ criterion.type.toList ∧ '\x1f' ∉ criterion.type.toList) ∧
        ('\x1e' ∉ criterion.value.toList ∧ '\x1f' ∉ criterion.value.toList))
    ⟨fun h => ⟨h.1, h.2.1, h.2.2⟩, fun h => ⟨h.name, h.type, h.value⟩⟩

theorem HeaderCriterion.text_inj {left right : HeaderCriterion} (hleft : left.Separable)
    (hright : right.Separable) (heq : left.text = right.text) : left = right := by
  have hparts : ∀ criterion : HeaderCriterion, criterion.Separable →
      ∀ part ∈ [criterion.name, criterion.type, criterion.value], '\x1f' ∉ part.toList := by
    intro criterion hseparable part hpart
    simp only [List.mem_cons, List.not_mem_nil, or_false] at hpart
    rcases hpart with rfl | rfl | rfl
    · exact hseparable.name.2
    · exact hseparable.type.2
    · exact hseparable.value.2
  have hlists := intercalate_inj (by decide) (hparts left hleft) (hparts right hright)
    (by simp) (by simp) heq
  obtain ⟨leftName, leftType, leftValue⟩ := left
  obtain ⟨rightName, rightType, rightValue⟩ := right
  simpa using hlists

theorem not_mem_text {criterion : HeaderCriterion} (hseparable : criterion.Separable) :
    '\x1e' ∉ criterion.text.toList := by
  simp [HeaderCriterion.text, hseparable.name.1, hseparable.type.1, hseparable.value.1]

theorem map_canonicalHeader (operation : Operation) :
    (routeHeaderMatches operation).map canonicalHeader =
      (headerCriteria operation).map HeaderCriterion.text := by
  rw [headerCriteria, List.map_map]
  rfl

theorem discriminator_congr (digest : String → String) {left right : Operation}
    (hheaders : (headerCriteria left).Perm (headerCriteria right)) :
    discriminator digest left = discriminator digest right := by
  have hperm : ((routeHeaderMatches left).map canonicalHeader).Perm
      ((routeHeaderMatches right).map canonicalHeader) := by
    rw [map_canonicalHeader, map_canonicalHeader]
    exact hheaders.map _
  have hsorted : ((routeHeaderMatches left).map canonicalHeader).insertionSort (· ≤ ·) =
      ((routeHeaderMatches right).map canonicalHeader).insertionSort (· ≤ ·) := by
    refine List.Perm.eq_of_pairwise' (List.pairwise_insertionSort _ _)
      (List.pairwise_insertionSort _ _) ?_
    exact ((List.perm_insertionSort _ _).trans hperm).trans (List.perm_insertionSort _ _).symm
  have hempty : (routeHeaderMatches left).isEmpty = (routeHeaderMatches right).isEmpty := by
    have hlength := hperm.length_eq
    rw [List.length_map, List.length_map] at hlength
    rw [Bool.eq_iff_iff, List.isEmpty_iff_length_eq_zero, List.isEmpty_iff_length_eq_zero, hlength]
  rw [discriminator, discriminator, headerMatchDiscriminator, headerMatchDiscriminator, hempty,
    hsorted]

theorem perm_of_discriminatorText_eq {left right : Operation}
    (hleft : ∀ criterion ∈ headerCriteria left, criterion.Separable)
    (hright : ∀ criterion ∈ headerCriteria right, criterion.Separable)
    (hleftNe : headerCriteria left ≠ []) (hrightNe : headerCriteria right ≠ [])
    (heq : discriminatorText left = discriminatorText right) :
    (headerCriteria left).Perm (headerCriteria right) := by
  have hsortedPerm : ∀ operation : Operation,
      (((routeHeaderMatches operation).map canonicalHeader).insertionSort (· ≤ ·)).Perm
        ((headerCriteria operation).map HeaderCriterion.text) := by
    intro operation
    rw [← map_canonicalHeader]
    exact List.perm_insertionSort _ _
  have hparts : ∀ operation : Operation,
      (∀ criterion ∈ headerCriteria operation, criterion.Separable) →
      ∀ part ∈ ((routeHeaderMatches operation).map canonicalHeader).insertionSort (· ≤ ·),
        '\x1e' ∉ part.toList := by
    intro operation hseparable part hpart
    obtain ⟨criterion, hcriterion, rfl⟩ :=
      List.mem_map.mp ((hsortedPerm operation).mem_iff.mp hpart)
    exact not_mem_text (hseparable criterion hcriterion)
  have hne : ∀ operation : Operation, headerCriteria operation ≠ [] →
      ((routeHeaderMatches operation).map canonicalHeader).insertionSort (· ≤ ·) ≠ [] := by
    intro operation hcriteria hnil
    have hperm := hsortedPerm operation
    rw [hnil] at hperm
    exact hcriteria (List.map_eq_nil_iff.mp hperm.symm.eq_nil)
  have hsorted := intercalate_inj (by decide) (hparts left hleft) (hparts right hright)
    (hne left hleftNe) (hne right hrightNe) heq
  have htexts := (hsortedPerm left).symm.trans (hsorted ▸ hsortedPerm right)
  refine perm_of_perm_map ?_ htexts
  intro criterion hcriterion other hother htext
  exact HeaderCriterion.text_inj (hleft criterion hcriterion) (hright other hother) htext

theorem discriminator_ne_empty_iff {digest : String → String} (hne : ∀ text, digest text ≠ "")
    (operation : Operation) :
    discriminator digest operation ≠ "" ↔ headerCriteria operation ≠ [] := by
  unfold discriminator headerMatchDiscriminator headerCriteria
  cases routeHeaderMatches operation with
  | nil => simp
  | cons header rest => simp [hne]

/-! ## Route keys -/

structure SeparableKeys (t : RestAPITransformer) (apiData : APIConfigData) : Prop where
  methods : ∀ operation ∈ apiData.operations, '|' ∉ operation.effectiveMethod.toList
  paths : ∀ operation ∈ apiData.operations, '|' ∉ (constructFullPath apiData.context
    apiData.version operation.effectivePath).toList
  vhosts : ∀ vhost ∈ routeVhosts t.routerConfig apiData, '|' ∉ vhost.toList
  headers : ∀ operation ∈ apiData.operations, ∀ criterion ∈ headerCriteria operation,
    criterion.Separable

section Keys

variable {t : RestAPITransformer} {apiData : APIConfigData} {left right : Operation}
  {vhost other : String}

def keySegments (t : RestAPITransformer) (apiData : APIConfigData) (operation : Operation)
    (vhost : String) : List String :=
  [operation.effectiveMethod,
    constructFullPath apiData.context apiData.version operation.effectivePath, vhost] ++
    if discriminator t.library.digest operation = "" then []
    else [discriminator t.library.digest operation]

theorem routeKey_eq (t : RestAPITransformer) (apiData : APIConfigData) (operation : Operation)
    (vhost : String) :
    t.routeKey apiData operation vhost =
      String.intercalate "|" (keySegments t apiData operation vhost) := by
  rw [← String.toList_inj, String.toList_intercalate, routeKey,
    generateRouteNameWithDiscriminator, keySegments]
  change String.toList (if discriminator t.library.digest operation = "" then _ else _) = _
  split <;> simp [List.intercalate, discriminator]

theorem routeKey_congr (hsame : SameCriteria left right) (vhost : String) :
    t.routeKey apiData left vhost = t.routeKey apiData right vhost := by
  rw [routeKey_eq, routeKey_eq, keySegments, keySegments, hsame.method, hsame.path,
    discriminator_congr t.library.digest hsame.headers]

theorem bar_not_mem_keySegments (hdigest : ∀ text, '|' ∉ (t.library.digest text).toList)
    (hkeys : SeparableKeys t apiData) {operation : Operation}
    (hoperation : operation ∈ apiData.operations)
    (hvhost : vhost ∈ routeVhosts t.routerConfig apiData) :
    ∀ segment ∈ keySegments t apiData operation vhost, '|' ∉ segment.toList := by
  intro segment hsegment
  rcases List.mem_append.mp hsegment with hsegment | hsegment
  · simp only [List.mem_cons, List.not_mem_nil, or_false] at hsegment
    rcases hsegment with rfl | rfl | rfl
    · exact hkeys.methods operation hoperation
    · exact hkeys.paths operation hoperation
    · exact hkeys.vhosts segment hvhost
  · split at hsegment
    · exact absurd hsegment List.not_mem_nil
    · rename_i hne
      rw [List.mem_singleton.mp hsegment, discriminator, headerMatchDiscriminator]
      split
      · simp
      · exact hdigest _

theorem sameCriteria_of_routeKey_eq
    (hdigest : DigestFor t.library.digest apiData.operations) (hkeys : SeparableKeys t apiData)
    (hleft : left ∈ apiData.operations) (hright : right ∈ apiData.operations)
    (hvhost : vhost ∈ routeVhosts t.routerConfig apiData)
    (hother : other ∈ routeVhosts t.routerConfig apiData)
    (heq : t.routeKey apiData left vhost = t.routeKey apiData right other) :
    SameCriteria left right ∧ vhost = other := by
  rw [routeKey_eq, routeKey_eq] at heq
  have hsegments := intercalate_inj (by decide)
    (bar_not_mem_keySegments hdigest.no_bar hkeys hleft hvhost)
    (bar_not_mem_keySegments hdigest.no_bar hkeys hright hother)
    (by simp [keySegments]) (by simp [keySegments]) heq
  simp only [keySegments, List.cons_append, List.nil_append, List.cons.injEq] at hsegments
  obtain ⟨hmethod, hpath, hvhosts, hlast⟩ := hsegments
  refine ⟨⟨hmethod, (String.append_right_inj _).mp hpath, ?_⟩, hvhosts⟩
  have hempty := discriminator_ne_empty_iff hdigest.ne_empty
  by_cases hleftNe : discriminator t.library.digest left = ""
  · by_cases hrightNe : discriminator t.library.digest right = ""
    · have hleftNil : headerCriteria left = [] := by
        by_contra hne
        exact (hempty left).mpr hne hleftNe
      have hrightNil : headerCriteria right = [] := by
        by_contra hne
        exact (hempty right).mpr hne hrightNe
      rw [hleftNil, hrightNil]
    · simp [hleftNe, hrightNe] at hlast
  · by_cases hrightNe : discriminator t.library.digest right = ""
    · simp [hleftNe, hrightNe] at hlast
    · have hleftCriteria := (hempty left).mp hleftNe
      have hrightCriteria := (hempty right).mp hrightNe
      rw [if_neg hleftNe, if_neg hrightNe] at hlast
      have hdigests : ∀ operation : Operation, headerCriteria operation ≠ [] →
          discriminator t.library.digest operation =
            t.library.digest (discriminatorText operation) := by
        intro operation hne
        have hmatches : (routeHeaderMatches operation).isEmpty = false := by
          simpa [headerCriteria] using hne
        simp [discriminator, headerMatchDiscriminator, hmatches, discriminatorText]
      rw [List.cons.injEq, hdigests left hleftCriteria, hdigests right hrightCriteria] at hlast
      exact perm_of_discriminatorText_eq (hkeys.headers left hleft) (hkeys.headers right hright)
        hleftCriteria hrightCriteria (hdigest.injective left hleft right hright hlast.1)

end Keys

/-! ## The entries of the tables -/

/-- The matching part of a route is that of the operation on the virtual host. -/
structure RouteFor (apiData : APIConfigData) (operation : Operation) (vhost : String)
    (route : Route) : Prop where
  method : route.method = operation.effectiveMethod
  path : route.path =
    constructFullPath apiData.context apiData.version operation.effectivePath
  type : route.pathMatchType = operation.effectivePathMatchType
  headers : route.matchHeaders = routeHeaderMatches operation
  vhost : route.vhost = vhost

/-- A route's upstream when it is served by a main or sandbox upstream. -/
def slotUpstream (apiData : APIConfigData) (upstream : UpstreamClusterResult) : RouteUpstream :=
  { clusterKey := upstream.clusterKey
    useClusterHeader := useClusterHeader apiData
    defaultCluster := if useClusterHeader apiData then upstream.clusterKey else ""
    default := some upstream.upstreamInfo }

/-- The entry under the key of the operation is the operation's own, or that of an operation
that matches the same requests. -/
def HasOwnRoute (t : RestAPITransformer) (apiData : APIConfigData) (rdc : RuntimeDeployConfig)
    (operation : Operation) (vhost : String) (upstream : UpstreamClusterResult) : Prop :=
  ∃ own ∈ apiData.operations, SameMatch own operation ∧
    ∃ route, rdc.routes.lookup (t.routeKey apiData operation vhost) = some route ∧
      RouteFor apiData own vhost route ∧ route.upstream = slotUpstream apiData upstream

def KeysDiffer (t : RestAPITransformer) (apiData : APIConfigData) : Prop :=
  ∀ left ∈ apiData.operations, ∀ right ∈ apiData.operations,
    ∀ vhost ∈ routeVhosts t.routerConfig apiData, ∀ other ∈ routeVhosts t.routerConfig apiData,
      t.routeKey apiData left vhost = t.routeKey apiData right other →
        SameMatch left right ∧ vhost = other

structure KeepsApart (t : RestAPITransformer) (apiData : APIConfigData)
    (rdc : RuntimeDeployConfig) : Prop where
  keys_differ : KeysDiffer t apiData
  keys_shared : ∀ left right, SameCriteria left right →
    ∀ vhost, t.routeKey apiData left vhost = t.routeKey apiData right vhost
  routes_entries : ∀ key, key ∈ rdc.routes ↔ key ∈ t.routeKeys apiData
  chains_entries : ∀ key, key ∈ rdc.policyChains ↔ key ∈ t.routeKeys apiData
  main_routes : ∀ mainUpstream,
    addUpstreamCluster t.library "main" apiData.upstreamMain apiData.upstreamDefinitions =
      .ok mainUpstream →
    ∀ operation ∈ apiData.operations, ∀ vhost ∈ mainVhosts t.routerConfig apiData,
      HasOwnRoute t apiData rdc operation vhost mainUpstream
  sandbox_routes : hasSandbox apiData = true → ∀ sandbox sandboxUpstream,
    apiData.upstreamSandbox = some sandbox →
    addUpstreamCluster t.library "sandbox" sandbox apiData.upstreamDefinitions =
      .ok sandboxUpstream →
    ∀ operation ∈ apiData.operations, HasOwnRoute t apiData rdc operation
      (effectiveSandboxVhost t.routerConfig apiData) sandboxUpstream
  chains : ∀ operation ∈ apiData.operations, ∀ vhost ∈ routeVhosts t.routerConfig apiData,
    ∃ own ∈ apiData.operations, SameMatch own operation ∧
      rdc.policyChains.lookup (t.routeKey apiData operation vhost) =
        some (t.operationChain apiData own)

section Entries

variable {t : RestAPITransformer} {apiData : APIConfigData} {operation : Operation}
  {vhost : String}

variable (hdiffer : KeysDiffer t apiData) (hoperation : operation ∈ apiData.operations)
  (hvhost : vhost ∈ routeVhosts t.routerConfig apiData)
include hdiffer hoperation hvhost

theorem lookup_chains_of_keysDiffer :
    ∃ own ∈ apiData.operations, SameMatch own operation ∧
      (insertAll ∅ (t.chainWrites apiData apiData.operations)).lookup
        (t.routeKey apiData operation vhost) = some (t.operationChain apiData own) := by
  have hkey : t.routeKey apiData operation vhost ∈
      (t.chainWrites apiData apiData.operations).map Prod.fst := by
    rw [t.keys_chainWrites]
    exact List.mem_flatMap.mpr ⟨operation, hoperation, List.mem_map.mpr ⟨vhost, hvhost, rfl⟩⟩
  have hwrites : ∀ write ∈ t.chainWrites apiData apiData.operations,
      write.1 = t.routeKey apiData operation vhost →
        ∃ own ∈ apiData.operations, SameMatch own operation ∧
          write.2 = t.operationChain apiData own := by
    intro write hwrite heq
    obtain ⟨own, hown, hmap⟩ := List.mem_flatMap.mp hwrite
    obtain ⟨other, hother, rfl⟩ := List.mem_map.mp hmap
    exact ⟨own, hown, (hdiffer own hown operation hoperation other hother vhost hvhost heq).1, rfl⟩
  obtain ⟨chain, hlookup, own, hown, hsame, rfl⟩ := exists_lookup_insertAll
    (fun chain => ∃ own ∈ apiData.operations, SameMatch own operation ∧
      chain = t.operationChain apiData own) hwrites hkey
  exact ⟨own, hown, hsame, hlookup⟩

theorem lookup_routes_of_keysDiffer (mainUpstream : UpstreamClusterResult)
    (apiTimeouts : Option Duration × Option Duration) :
    ∃ own ∈ apiData.operations, SameMatch own operation ∧ ∃ order timeout,
      (insertAll ∅ (t.routeWrites apiData mainUpstream apiTimeouts
          apiData.operations.zipIdx)).lookup (t.routeKey apiData operation vhost) =
        some (mainRoute apiData mainUpstream own order timeout vhost) := by
  have hkey : t.routeKey apiData operation vhost ∈
      (t.routeWrites apiData mainUpstream apiTimeouts apiData.operations.zipIdx).map
        Prod.fst := by
    rw [t.keys_routeWrites]
    exact List.mem_flatMap.mpr ⟨operation, hoperation, List.mem_map.mpr ⟨vhost, hvhost, rfl⟩⟩
  have hwrites : ∀ write ∈ t.routeWrites apiData mainUpstream apiTimeouts
      apiData.operations.zipIdx, write.1 = t.routeKey apiData operation vhost →
        ∃ own ∈ apiData.operations, SameMatch own operation ∧ ∃ order timeout,
          write.2 = mainRoute apiData mainUpstream own order timeout vhost := by
    intro write hwrite heq
    obtain ⟨⟨own, order⟩, hjob, hmap⟩ := List.mem_flatMap.mp hwrite
    obtain ⟨other, hother, rfl⟩ := List.mem_map.mp hmap
    have hown : own ∈ apiData.operations := List.fst_mem_of_mem_zipIdx hjob
    obtain ⟨hsame, rfl⟩ := hdiffer own hown operation hoperation other hother vhost hvhost heq
    exact ⟨own, hown, hsame, order, _, rfl⟩
  obtain ⟨route, hlookup, own, hown, hsame, order, timeout, rfl⟩ := exists_lookup_insertAll
    (fun route => ∃ own ∈ apiData.operations, SameMatch own operation ∧ ∃ order timeout,
      route = mainRoute apiData mainUpstream own order timeout vhost)
    hwrites hkey
  exact ⟨own, hown, hsame, order, timeout, hlookup⟩

end Entries

section Transformed

variable {t : RestAPITransformer} {cfg : StoredConfig} {apiData : APIConfigData}
  {rdc : RuntimeDeployConfig} {mainUpstream : UpstreamClusterResult}
  {apiTimeouts : Option Duration × Option Duration} {clusters : GoMap String UpstreamCluster}
  (hsteps : TransformSteps t cfg apiData rdc mainUpstream apiTimeouts clusters)
  (hdiffer : KeysDiffer t apiData)
include hsteps hdiffer

theorem hasOwnRoute_main {operation : Operation} (hoperation : operation ∈ apiData.operations)
    {vhost : String} (hvhost : vhost ∈ mainVhosts t.routerConfig apiData) :
    HasOwnRoute t apiData rdc operation vhost mainUpstream := by
  have hrouteVhost : vhost ∈ routeVhosts t.routerConfig apiData := List.mem_append_left _ hvhost
  obtain ⟨own, hown, hsame, order, timeout, hlookup⟩ :=
    lookup_routes_of_keysDiffer hdiffer hoperation hrouteVhost mainUpstream apiTimeouts
  refine ⟨own, hown, hsame,
    mainRoute apiData mainUpstream own order timeout vhost, ?_,
    ⟨rfl, rfl, rfl, rfl, rfl⟩, rfl⟩
  cases hsteps.sandbox with
  | absent _ _ hroutes => rw [hroutes, hlookup]
  | present sandbox sandboxUpstream hsandbox _ _ _ hroutes =>
    -- the key is none of the sandbox host, so the route is not re-pointed
    rw [hroutes, lookup_patchSandboxRoutes, if_neg, hlookup]
    intro hkey
    obtain ⟨other, hother, heq⟩ := List.mem_map.mp hkey
    have hsandboxVhost : effectiveSandboxVhost t.routerConfig apiData ∈
        routeVhosts t.routerConfig apiData := by
      simp [routeVhosts, hsandbox]
    obtain ⟨-, hvhosts⟩ := hdiffer other hother operation hoperation _ hsandboxVhost vhost
      hrouteVhost heq
    exact hsteps.vhosts_apart ⟨hsandbox, hvhosts ▸ hvhost⟩

theorem hasOwnRoute_sandbox {sandbox : Upstream} {sandboxUpstream : UpstreamClusterResult}
    (hsandbox : hasSandbox apiData = true) (hupstream : apiData.upstreamSandbox = some sandbox)
    (hresolved : addUpstreamCluster t.library "sandbox" sandbox apiData.upstreamDefinitions =
      .ok sandboxUpstream) {operation : Operation} (hoperation : operation ∈ apiData.operations) :
    HasOwnRoute t apiData rdc operation (effectiveSandboxVhost t.routerConfig apiData)
      sandboxUpstream := by
  have hvhost : effectiveSandboxVhost t.routerConfig apiData ∈
      routeVhosts t.routerConfig apiData := by
    simp [routeVhosts, hsandbox]
  obtain ⟨own, hown, hsame, order, timeout, hlookup⟩ :=
    lookup_routes_of_keysDiffer hdiffer hoperation hvhost mainUpstream apiTimeouts
  cases hsteps.sandbox with
  | absent habsent _ _ =>
    rw [hsandbox] at habsent
    contradiction
  | present other otherUpstream _ hother hotherResolved _ hroutes =>
    obtain rfl : sandbox = other := Option.some.inj (hupstream.symm.trans hother)
    obtain rfl : sandboxUpstream = otherUpstream :=
      Except.ok.inj (hresolved.symm.trans hotherResolved)
    refine ⟨own, hown, hsame, repointed apiData sandbox sandboxUpstream
      (mainRoute apiData mainUpstream own order timeout
        (effectiveSandboxVhost t.routerConfig apiData)), ?_, ⟨rfl, rfl, rfl, rfl, rfl⟩, rfl⟩
    rw [hroutes, lookup_patchSandboxRoutes,
      if_pos (List.mem_map.mpr ⟨operation, hoperation, rfl⟩), hlookup, Option.map_some]

end Transformed

/-- Operations that differ in what they match have entries of their own, each pointed to the
cluster of its virtual host, if and only if no two operations differ in nothing but the type of
the path match.  The parts of the keys must not contain the separators. -/
theorem transform_keeps_operations_apart (t : RestAPITransformer) (cfg : StoredConfig)
    (api : RestAPI) (rdc : RuntimeDeployConfig) (hconfiguration : cfg.configuration = .restAPI api)
    (hok : t.transform cfg = .ok rdc)
    (hdigest : DigestFor t.library.digest api.spec.operations) :
    (KeepsApart t api.spec rdc → TypesAgree api.spec.operations) ∧
      (SeparableKeys t api.spec → TypesAgree api.spec.operations → KeepsApart t api.spec rdc) := by
  rw [transform, hconfiguration] at hok
  obtain ⟨mainUpstream, apiTimeouts, clusters, hsteps⟩ :=
    transformSpec_steps hok
  have htransformed := transformSpec_ok hok
  constructor
  · intro hapart left hleft right hright hsame
    obtain ⟨vhost, hvhost⟩ := List.exists_mem_of_ne_nil _
      (mainVhosts_ne_nil t.routerConfig api.spec)
    have hrouteVhost : vhost ∈ routeVhosts t.routerConfig api.spec :=
      List.mem_append_left _ hvhost
    exact (hapart.keys_differ left hleft right hright vhost hrouteVhost vhost hrouteVhost
      (routeKey_congr hsame vhost)).1.type
  · intro hkeys htypes
    have hdiffer : KeysDiffer t api.spec := by
      intro left hleft right hright vhost hvhost other hother heq
      obtain ⟨hsame, hvhosts⟩ := sameCriteria_of_routeKey_eq hdigest hkeys hleft hright hvhost
        hother heq
      exact ⟨⟨hsame, htypes left hleft right hright hsame⟩, hvhosts⟩
    exact
      { keys_differ := hdiffer
        keys_shared := fun _ _ hsame vhost => routeKey_congr hsame vhost
        routes_entries := htransformed.mem_routes
        chains_entries := htransformed.mem_policyChains
        main_routes := by
          intro resolved hresolved operation hoperation vhost hvhost
          obtain rfl : mainUpstream = resolved :=
            Except.ok.inj (hsteps.main.symm.trans hresolved)
          exact hasOwnRoute_main hsteps hdiffer hoperation hvhost
        sandbox_routes := by
          intro hsandbox sandbox sandboxUpstream hupstream hresolved operation hoperation
          exact hasOwnRoute_sandbox hsteps hdiffer hsandbox hupstream hresolved hoperation
        chains := by
          intro operation hoperation vhost hvhost
          rw [hsteps.policyChains_eq]
          exact lookup_chains_of_keysDiffer hdiffer hoperation hvhost }

/-! ## Two types of one path -/

def itemsMatch (type : String) (headers : List OperationHeaderMatch) : Operation :=
  { matchBlock := some
      { method := "GET", path := "/items", pathType := some type, headers := headers }
    method := none, path := none, policies := [], resilience := none }

def betaHeader : OperationHeaderMatch :=
  { name := "X-Beta", value := "on", type := none }

def betaSpec : APIConfigData :=
  { backendSpec "http://backend" [] [itemsMatch "Exact" [], itemsMatch "Exact" [betaHeader]] with
    upstreamSandbox := some { url := some "https://backend", ref := none, hostRewrite := none } }

theorem digestFor_beta :
    DigestFor backendTransformer.library.digest betaSpec.operations := by
  refine ⟨fun text hempty => ?_, fun text => ?_, by decide +kernel⟩
  · have hlist := congrArg String.toList hempty
    simp [backendTransformer] at hlist
  · simp [backendTransformer]

theorem beta_operations_kept_apart :
    ∃ rdc, backendTransformer.transform (backendConfig "shop" betaSpec) = .ok rdc ∧
      KeepsApart backendTransformer betaSpec rdc := by
  obtain ⟨rdc, htransform⟩ := exists_ok_of_isOk
    (by decide +kernel : (backendTransformer.transform (backendConfig "shop" betaSpec)).isOk = true)
  refine ⟨rdc, htransform, (transform_keeps_operations_apart backendTransformer
    (backendConfig "shop" betaSpec) _ rdc rfl htransform digestFor_beta).2 ?_ ?_⟩
  · exact ⟨by decide +kernel, by decide +kernel, by decide +kernel, by decide +kernel⟩
  · decide +kernel

def typesSpec : APIConfigData :=
  backendSpec "http://backend" [] [itemsMatch "Exact" [], itemsMatch "PathPrefix" []]

def barsSpec : APIConfigData :=
  { backendSpec "http://backend" []
      [getItems, { getItems with path := some "/items|a" }] with
    vhosts := some { main := "a|b;b", sandbox := none } }

/-- Of an exact match and a prefix match of one path only the prefix match is left.  A separator
in a path and in a virtual host makes two more keys collide. -/
theorem exact_match_overwritten :
    (∃ rdc, backendTransformer.transform (backendConfig "shop" typesSpec) = .ok rdc ∧
      rdc.routes.entries.map (fun entry => (entry.1, entry.2.pathMatchType)) =
        [("GET|/shop/items|*", "PathPrefix")] ∧
      ¬ KeepsApart backendTransformer typesSpec rdc) ∧
    ∃ rdc, backendTransformer.transform (backendConfig "shop" barsSpec) = .ok rdc ∧
      rdc.routes.keys.length = 3 ∧ ¬ KeepsApart backendTransformer barsSpec rdc := by
  constructor
  · refine exists_ok_of_any (by decide +kernel) fun rdc _ _ hapart => ?_
    have hsame := (hapart.keys_differ (itemsMatch "Exact" []) (by decide +kernel)
      (itemsMatch "PathPrefix" []) (by decide +kernel) "*" (by decide +kernel) "*"
      (by decide +kernel) (by decide +kernel)).1
    exact absurd hsame.type (by decide +kernel)
  · refine exists_ok_of_any (by decide +kernel) fun rdc _ _ hapart => ?_
    have hsame := (hapart.keys_differ getItems (by decide +kernel)
      { getItems with path := some "/items|a" } (by decide +kernel) "a|b" (by decide +kernel)
      "b" (by decide +kernel) (by decide +kernel)).1
    exact absurd hsame.path (by decide +kernel)

end ApiPlatform.Controller.Transform
