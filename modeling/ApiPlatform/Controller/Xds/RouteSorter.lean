import ApiPlatform.Foundation.Selection
import ApiPlatform.Controller.Xds.RouteMatch

/-!
# Route precedence

The order of the routes of a virtual host (`pkg/xds/route_sorter.go`).  `less`
follows the source's comparison step by step; it compares one key of each
route, `precedence`, so that sorting by it is well defined.
-/

namespace ApiPlatform.Controller.Xds

open Foundation

def getPathMatchType (routeMatch : RouteMatch) : Nat :=
  match routeMatch.pathSpecifier with
  | .path _ => 0
  | .safeRegex _ => 1
  | .pathPrefix _ => 2
  | .unset => 3

def pathMatchCount (routeMatch : RouteMatch) : Nat :=
  match routeMatch.pathSpecifier with
  | .path path => len path
  | .safeRegex regex => len regex
  | .pathPrefix start => if start = "/" then 0 else len start
  | .unset => 0

def ValueMatcher.isExact : ValueMatcher → Bool
  | .exact value => value != ""
  | .safeRegex _ => false

def numberOfExactHeaderMatches (headers : List HeaderMatcher) : Nat :=
  headers.countP (·.specifier.isExact)

def numberOfExactQueryParamMatches (queryParams : List QueryParameterMatcher) : Nat :=
  queryParams.countP (·.specifier.isExact)

def less (left right : RouteMatch) : Bool :=
  if getPathMatchType left ≠ getPathMatchType right then
    getPathMatchType left > getPathMatchType right
  else if pathMatchCount left ≠ pathMatchCount right then
    pathMatchCount left < pathMatchCount right
  else if left.headers.length ≠ right.headers.length then
    left.headers.length < right.headers.length
  else if numberOfExactHeaderMatches left.headers ≠ numberOfExactHeaderMatches right.headers then
    numberOfExactHeaderMatches left.headers < numberOfExactHeaderMatches right.headers
  else if left.queryParameters.length ≠ right.queryParameters.length then
    left.queryParameters.length < right.queryParameters.length
  else
    numberOfExactQueryParamMatches left.queryParameters <
      numberOfExactQueryParamMatches right.queryParameters

/-- The order of `sort.Reverse`: the left route may stand before the right one. -/
def NotAfter (left right : EnvoyRoute) : Prop :=
  less left.routeMatch right.routeMatch = false

instance : DecidableRel NotAfter :=
  fun left right => inferInstanceAs (Decidable (less left.routeMatch right.routeMatch = false))

def sortRoutesByPriority (routes : List EnvoyRoute) : List EnvoyRoute :=
  if routes.length ≤ 1 then routes
  else routes.insertionSort NotAfter

/-! ## The key that `less` compares -/

abbrev PrecedenceKey :=
  ℕᵒᵈ ×ₗ ℕ ×ₗ ℕ ×ₗ ℕ ×ₗ ℕ ×ₗ ℕ

def precedence (routeMatch : RouteMatch) : PrecedenceKey :=
  toLex (OrderDual.toDual (getPathMatchType routeMatch),
    toLex (pathMatchCount routeMatch,
      toLex (routeMatch.headers.length,
        toLex (numberOfExactHeaderMatches routeMatch.headers,
          toLex (routeMatch.queryParameters.length,
            numberOfExactQueryParamMatches routeMatch.queryParameters)))))

theorem less_iff_precedence_lt (left right : RouteMatch) :
    less left right = true ↔ precedence left < precedence right := by
  unfold less precedence
  simp only [Prod.Lex.toLex_lt_toLex, OrderDual.toDual_lt_toDual, OrderDual.toDual_inj]
  split_ifs <;> simp only [decide_eq_true_eq, gt_iff_lt] <;> omega

theorem notAfter_iff (left right : EnvoyRoute) :
    NotAfter left right ↔ precedence right.routeMatch ≤ precedence left.routeMatch := by
  rw [NotAfter, ← not_lt, ← less_iff_precedence_lt, Bool.not_eq_true]

theorem notAfter_refl (route : EnvoyRoute) : NotAfter route route :=
  (notAfter_iff route route).mpr le_rfl

instance : Std.Total NotAfter where
  total left right := by
    rw [notAfter_iff, notAfter_iff]
    exact le_total _ _

instance : IsTrans EnvoyRoute NotAfter where
  trans left middle right hleft hright := by
    rw [notAfter_iff] at hleft hright ⊢
    exact hright.trans hleft

/-! ## Sorting -/

theorem sortRoutesByPriority_pairwise (routes : List EnvoyRoute) :
    (sortRoutesByPriority routes).Pairwise NotAfter := by
  unfold sortRoutesByPriority
  split
  · rename_i hlength
    match routes, hlength with
    | [], _ => exact List.Pairwise.nil
    | [route], _ => exact List.pairwise_singleton _ route
  · exact List.pairwise_insertionSort NotAfter routes

theorem mem_sortRoutesByPriority {routes : List EnvoyRoute} {route : EnvoyRoute} :
    route ∈ sortRoutesByPriority routes ↔ route ∈ routes := by
  unfold sortRoutesByPriority
  split
  · exact Iff.rfl
  · exact (List.perm_insertionSort NotAfter routes).mem_iff

theorem sortRoutesByPriority_pair {first second : EnvoyRoute} (hrel : NotAfter first second) :
    sortRoutesByPriority [first, second] = [first, second] := by
  simp [sortRoutesByPriority, List.insertionSort, hrel]

end ApiPlatform.Controller.Xds
