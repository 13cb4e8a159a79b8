import ApiPlatform.Foundation.GoStrings

/-!
# Path patterns of LLM providers

Exceptions, policies and template resources name paths either literally or
with a trailing `*` (`pkg/utils/llm_transformer.go`).  `pathsMatch` is the
source's test between two such paths; `Covers` is what a path means for
requests.  The first is sound for the second.
-/

namespace ApiPlatform.Controller.Llm

open Foundation

variable {path pattern : String}

def hasWildcard (path : String) : Bool :=
  contains path "*"

def wildcardStart (path : String) : List Char :=
  beforeLast '*' path.toList

def underWildcard (path pattern : String) : Bool :=
  hasWildcard pattern && (wildcardStart pattern).isPrefixOf path.toList

def pathsMatch (opPath policyPath : String) : Bool :=
  policyPath == "/*" || opPath == policyPath || underWildcard opPath policyPath

def isMoreSpecificPath (left right : String) : Bool :=
  if hasWildcard left ≠ hasWildcard right then !hasWildcard left
  else len left > len right

theorem hasWildcard_iff (path : String) : hasWildcard path = true ↔ '*' ∈ path.toList :=
  indexOf_singleton_isSome '*' path.toList

/-! ## What a path means for requests -/

structure RequestPath where
  path : String
  slash : path.toList.head? = some '/'

def IsPathPattern (path : String) : Prop :=
  '*' ∉ path.toList.dropLast

instance (path : String) : Decidable (IsPathPattern path) :=
  inferInstanceAs (Decidable (¬ _))

/-- The request path is the pattern itself or lies under its prefix. -/
def Covers (pattern : String) (request : RequestPath) : Prop :=
  request.path = pattern ∨ underWildcard request.path pattern = true

theorem eq_append_of_hasWildcard (hpattern : IsPathPattern path)
    (hwildcard : hasWildcard path = true) : path.toList = wildcardStart path ++ ['*'] := by
  rw [hasWildcard_iff] at hwildcard
  have hne : path.toList ≠ [] := List.ne_nil_of_mem hwildcard
  have hsplit := List.dropLast_append_getLast hne
  have hlast : path.toList.getLast hne = '*' := by
    rw [← hsplit] at hwildcard
    rcases List.mem_append.mp hwildcard with hmem | hmem
    · exact absurd hmem hpattern
    · exact (List.mem_singleton.mp hmem).symm
  rw [hlast] at hsplit
  rw [wildcardStart, ← hsplit, beforeLast_append]

theorem not_mem_wildcardStart (hpattern : IsPathPattern path)
    (hwildcard : hasWildcard path = true) :
    '*' ∉ wildcardStart path := by
  have hsplit := eq_append_of_hasWildcard hpattern hwildcard
  rw [IsPathPattern, hsplit, List.dropLast_concat] at hpattern
  exact hpattern

theorem underWildcard_iff (path pattern : String) :
    underWildcard path pattern = true ↔
      hasWildcard pattern = true ∧ wildcardStart pattern <+: path.toList := by
  rw [underWildcard, Bool.and_eq_true, List.isPrefixOf_iff_prefix]

theorem prefix_of_prefix_append_star {left right : List Char} (hleft : '*' ∉ left)
    (hstarts : left <+: right ++ ['*']) : left <+: right := by
  rcases List.prefix_concat_iff.mp hstarts with heq | hstarts
  · exact absurd (heq ▸ List.mem_append_right _ List.mem_cons_self) hleft
  · exact hstarts

theorem wildcardStart_isPrefix (hpath : IsPathPattern path) (hpattern : IsPathPattern pattern)
    (hwildcard : hasWildcard path = true) (hunder : underWildcard path pattern = true) :
    wildcardStart pattern <+: wildcardStart path := by
  obtain ⟨hpatternWildcard, hstarts⟩ := (underWildcard_iff path pattern).mp hunder
  rw [eq_append_of_hasWildcard hpath hwildcard] at hstarts
  exact prefix_of_prefix_append_star (not_mem_wildcardStart hpattern hpatternWildcard) hstarts

variable {request : RequestPath}

theorem covers_of_underWildcard (hpath : IsPathPattern path) (hpattern : IsPathPattern pattern)
    (hunder : underWildcard path pattern = true) (hcovers : Covers path request) :
    Covers pattern request := by
  have hunder' := (underWildcard_iff path pattern).mp hunder
  right
  rw [underWildcard_iff]
  refine ⟨hunder'.1, ?_⟩
  rcases hcovers with heq | hrequest
  · rw [heq]
    exact hunder'.2
  · obtain ⟨hwildcard, hstarts⟩ := (underWildcard_iff request.path path).mp hrequest
    exact (wildcardStart_isPrefix hpath hpattern hwildcard hunder).trans hstarts

theorem covers_root (request : RequestPath) : Covers "/*" request := by
  right
  rw [underWildcard_iff]
  refine ⟨by decide, ?_⟩
  obtain ⟨rest, hrest⟩ := List.head?_eq_some_iff.mp request.slash
  rw [hrest]
  exact ⟨rest, rfl⟩

theorem covers_of_pathsMatch (hpath : IsPathPattern path) (hpattern : IsPathPattern pattern)
    (hmatch : pathsMatch path pattern = true) (hcovers : Covers path request) :
    Covers pattern request := by
  simp only [pathsMatch, Bool.or_eq_true, beq_iff_eq] at hmatch
  rcases hmatch with (rfl | rfl) | hunder
  · exact covers_root request
  · exact hcovers
  · exact covers_of_underWildcard hpath hpattern hunder hcovers

/-! ## Specificity -/

theorem len_of_hasWildcard (hpattern : IsPathPattern path) (hwildcard : hasWildcard path = true) :
    len path = String.utf8Len (wildcardStart path) + 1 := by
  have hpath : path = String.ofList (wildcardStart path ++ ['*']) := by
    rw [← eq_append_of_hasWildcard hpattern hwildcard, String.ofList_toList]
  have hstar : String.utf8Len ['*'] = 1 := rfl
  nth_rewrite 1 [hpath]
  rw [len_ofList, String.utf8Len_append, hstar]

theorem eq_of_wildcardStart_eq {left right : String} (hleft : IsPathPattern left)
    (hright : IsPathPattern right) (hleftWildcard : hasWildcard left = true)
    (hrightWildcard : hasWildcard right = true) (heq : wildcardStart left = wildcardStart right) :
    left = right := by
  rw [← String.toList_inj, eq_append_of_hasWildcard hleft hleftWildcard,
    eq_append_of_hasWildcard hright hrightWildcard, heq]

theorem isMoreSpecificPath_of_matches_self {other : String} (hother : IsPathPattern other)
    (hpath : IsPathPattern path) (hmatch : path = other ∨ underWildcard path other = true) :
    isMoreSpecificPath other path = false := by
  rcases hmatch with rfl | hunder
  · simp [isMoreSpecificPath]
  · have hwildcard := ((underWildcard_iff path other).mp hunder).1
    cases hpathWildcard : hasWildcard path with
    | false => simp [isMoreSpecificPath, hwildcard, hpathWildcard]
    | true =>
      have hle := utf8Len_le_of_isPrefix (wildcardStart_isPrefix hpath hother hpathWildcard hunder)
      have hlen : ¬ len path < len other := by
        rw [len_of_hasWildcard hpath hpathWildcard, len_of_hasWildcard hother hwildcard]
        omega
      simp [isMoreSpecificPath, hwildcard, hpathWildcard, hlen]

theorem underWildcard_of_not_moreSpecific (hpattern : IsPathPattern pattern)
    (hpath : IsPathPattern path) (hcoversPattern : Covers pattern request)
    (hcoversPath : Covers path request) (hspecific : isMoreSpecificPath pattern path = false) :
    path = pattern ∨ underWildcard path pattern = true := by
  cases hwildcard : hasWildcard pattern with
  | false =>
    have hrequest : request.path = pattern := by
      rcases hcoversPattern with heq | hunder
      · exact heq
      · simp [underWildcard, hwildcard] at hunder
    cases hpathWildcard : hasWildcard path with
    | true => simp [isMoreSpecificPath, hwildcard, hpathWildcard] at hspecific
    | false =>
      rcases hcoversPath with heq | hunder
      · exact .inl (heq.symm.trans hrequest)
      · simp [underWildcard, hpathWildcard] at hunder
  | true =>
    have hstart : wildcardStart pattern <+: request.path.toList := by
      rcases hcoversPattern with heq | hunder
      · rw [heq, eq_append_of_hasWildcard hpattern hwildcard]
        exact List.prefix_append _ _
      · exact ((underWildcard_iff _ _).mp hunder).2
    right
    rw [underWildcard_iff]
    refine ⟨hwildcard, ?_⟩
    cases hpathWildcard : hasWildcard path with
    | false =>
      rcases hcoversPath with heq | hunder
      · exact heq ▸ hstart
      · simp [underWildcard, hpathWildcard] at hunder
    | true =>
      have hpathStart : wildcardStart path <+: request.path.toList := by
        rcases hcoversPath with heq | hunder
        · rw [heq, eq_append_of_hasWildcard hpath hpathWildcard]
          exact List.prefix_append _ _
        · exact ((underWildcard_iff _ _).mp hunder).2
      have hlen : ¬ len path < len pattern := by
        simpa [isMoreSpecificPath, hwildcard, hpathWildcard] using hspecific
      rw [len_of_hasWildcard hpath hpathWildcard, len_of_hasWildcard hpattern hwildcard] at hlen
      have hstarts := prefix_of_prefix_of_utf8Len_le hstart hpathStart (by omega)
      rw [eq_append_of_hasWildcard hpath hpathWildcard]
      exact hstarts.trans (List.prefix_append _ _)

theorem pathsMatch_trans {first second third : String} (hsecond : IsPathPattern second)
    (hthird : IsPathPattern third) (hleft : pathsMatch first second = true)
    (hright : pathsMatch second third = true) : pathsMatch first third = true := by
  simp only [pathsMatch, Bool.or_eq_true, beq_iff_eq] at hleft hright ⊢
  rcases hright with (hroot | rfl) | hunder
  · exact .inl (.inl hroot)
  · exact hleft
  · obtain ⟨hwildcard, hstarts⟩ := (underWildcard_iff _ _).mp hunder
    rcases hleft with (rfl | rfl) | hfirst
    · -- `/*` matches every path, so the third path must be `*` or `/*` itself
      have hstart : wildcardStart third <+: ['/'] :=
        wildcardStart_isPrefix (by decide) hthird (by decide) hunder
      rcases List.prefix_cons_iff.mp hstart with hnil | ⟨rest, hslash, hrest⟩
      · right
        rw [underWildcard_iff, hnil]
        exact ⟨hwildcard, List.nil_prefix⟩
      · rw [List.prefix_nil.mp hrest] at hslash
        exact .inl (.inl
          (eq_of_wildcardStart_eq hthird (by decide) hwildcard (by decide) hslash))
    · exact .inr hunder
    · right
      obtain ⟨hsecondWildcard, hfirstPrefix⟩ := (underWildcard_iff _ _).mp hfirst
      rw [underWildcard_iff]
      exact ⟨hwildcard,
        (wildcardStart_isPrefix hsecond hthird hsecondWildcard hunder).trans hfirstPrefix⟩

end ApiPlatform.Controller.Llm
