import Mathlib.Data.List.TakeWhile
import Mathlib.Tactic.MkIffOfInductiveProp

/-!
# The upstream path

`compute_upstream_path` of `lua/request_transformation.lua` takes the API context from the path that
a policy asked for and puts the base path of the upstream before it.  It tests the context
as a string, so a context can end in the middle of a segment or right before the query.
-/

namespace ApiPlatform.Controller.Lua

abbrev LuaString := List Char

/-! ## The filter -/

def relativePath (targetPath apiContext : LuaString) : LuaString :=
  if apiContext ≠ [] ∧ apiContext ≠ ['/'] then
    if targetPath.take apiContext.length = apiContext then
      let relative := targetPath.drop apiContext.length
      if relative = [] then ['/'] else relative
    else targetPath
  else targetPath

abbrev IsRoot (base : LuaString) : Prop :=
  base = [] ∨ base = ['/']

def prependBasePath (upstreamBasePath relative : LuaString) : LuaString :=
  if IsRoot upstreamBasePath then relative
  else if upstreamBasePath.getLast? = some '/' ∧ relative.head? = some '/' then
    upstreamBasePath ++ relative.drop 1
  else if upstreamBasePath.getLast? ≠ some '/' ∧ relative.head? ≠ some '/' then
    upstreamBasePath ++ ['/'] ++ relative
  else upstreamBasePath ++ relative

def computeUpstreamPath (targetPath apiContext upstreamBasePath : Option LuaString) :
    Option LuaString :=
  match targetPath with
  | none | some [] => none
  | some target =>
    some (prependBasePath (upstreamBasePath.getD []) (relativePath target (apiContext.getD [])))

/-! ## Segments -/

structure RootedPath where
  chars : LuaString
  rooted : chars.head? = some '/'

structure BasePath where
  chars : LuaString
  rooted : chars = [] ∨ chars.head? = some '/'

def pathPart (target : LuaString) : LuaString :=
  target.takeWhile (· ≠ '?')

/-- The context is the path, or ends where a segment of the path ends. -/
def AtBoundary (target context : LuaString) : Prop :=
  pathPart target = context ∨ context ++ ['/'] <+: pathPart target

instance (target context : LuaString) : Decidable (AtBoundary target context) :=
  inferInstanceAs (Decidable (_ ∨ _))

/-- The base path and the rest with one slash between them. -/
def joined (base rest : LuaString) : LuaString :=
  (if base.getLast? = some '/' then base.dropLast else base) ++
    '/' :: if rest.head? = some '/' then rest.tail else rest

/-- What the base path is put before: the context is taken off at a boundary only. -/
def kept (target context : LuaString) : LuaString :=
  if AtBoundary target context then target.drop context.length else target

/-- The upstream receives a rooted path, with all that is kept of the target after the base. -/
@[mk_iff]
structure StripsAtBoundary (target context base : LuaString) : Prop where
  rooted : ∃ path ∈ computeUpstreamPath (some target) (some context) (some base),
    path.head? = some '/'
  placed : computeUpstreamPath (some target) (some context) (some base) =
    some (joined base (kept target context))

/-- Where the target starts with the context, a segment ends with the context, and a query that
follows at once follows a base path; the root context is not followed by a slash. -/
def ContextEndsSegment (target context base : LuaString) : Prop :=
  ∀ rest, target = context ++ rest →
    if context = ['/'] then rest.head? ≠ some '/'
    else '?' ∉ context ∧
      (rest = [] ∨ rest.head? = some '/' ∨ rest.head? = some '?' ∧ ¬ IsRoot base)

variable {target context base rest : LuaString}

theorem atBoundary_append (hquery : '?' ∉ context) :
    AtBoundary (context ++ rest) context ↔
      rest = [] ∨ rest.head? = some '/' ∨ rest.head? = some '?' := by
  have hall : ∀ char ∈ context, decide (char ≠ '?') = true := by
    intro char hchar
    simpa using fun heq : char = '?' => hquery (heq ▸ hchar)
  rw [AtBoundary, pathPart, List.takeWhile_append_of_pos hall]
  cases rest with
  | nil => simp
  | cons next others =>
    by_cases hnext : next = '?'
    · simp [hnext]
    · simp [hnext, @eq_comm _ next]

theorem prefix_of_atBoundary (hboundary : AtBoundary target context) :
    context <+: target ∧ '?' ∉ context := by
  have hpart : pathPart target <+: target := List.takeWhile_prefix _
  have hquery : '?' ∉ pathPart target := fun hmem => by
    simpa using List.mem_takeWhile_imp hmem
  rcases hboundary with rfl | hstarts
  · exact ⟨hpart, hquery⟩
  · refine ⟨(List.prefix_append _ _).trans (hstarts.trans hpart), fun hmem => hquery ?_⟩
    exact hstarts.subset (List.mem_append_left _ hmem)

/-! ## The two parts of the path -/

def stripped (rest : LuaString) : LuaString :=
  if rest = [] then ['/'] else rest

theorem joined_stripped : joined base (stripped rest) = joined base rest := by
  cases rest <;> rfl

theorem head_joined (hbase : base = [] ∨ base.head? = some '/') :
    (joined base rest).head? = some '/' := by
  unfold joined
  match base, hbase with
  | [], _ => rfl
  | [char], .inr hrooted =>
    obtain rfl : char = '/' := by simpa using hrooted
    rfl
  | char :: next :: others, .inr hrooted =>
    obtain rfl : char = '/' := by simpa using hrooted
    split <;> rfl

/-- The filter puts one slash between the two parts unless the first is missing. -/
theorem prependBasePath_eq_joined_iff :
    prependBasePath base rest = joined base rest ↔ ¬ IsRoot base ∨ rest.head? = some '/' := by
  by_cases hroot : IsRoot base
  · have hjoined : joined base rest = '/' :: if rest.head? = some '/' then rest.tail else rest := by
      rcases hroot with rfl | rfl <;> rfl
    rw [prependBasePath, if_pos hroot, hjoined]
    cases rest with
    | nil => simp [hroot]
    | cons next others =>
      by_cases hnext : next = '/'
      · simp [hnext]
      · simp [hroot, hnext]
  · refine iff_of_true ?_ (.inl hroot)
    rw [prependBasePath, if_neg hroot, joined]
    by_cases hbase : base.getLast? = some '/'
    · obtain ⟨init, rfl⟩ := List.getLast?_eq_some_iff.mp hbase
      by_cases hrest : rest.head? = some '/' <;> simp [hrest]
    · by_cases hrest : rest.head? = some '/'
      · obtain ⟨others, rfl⟩ := List.head?_eq_some_iff.mp hrest
        simp [hbase]
      · simp [hbase, hrest]

theorem relativePath_append (hcontext : 2 ≤ context.length) :
    relativePath (context ++ rest) context = stripped rest := by
  have hnil : context ≠ [] := by
    rintro rfl
    simp at hcontext
  have hroot : context ≠ ['/'] := by
    rintro rfl
    simp at hcontext
  simp [relativePath, hnil, hroot, stripped]

theorem relativePath_of_mismatch (hnot : ¬ context <+: target) :
    relativePath target context = target := by
  have htake : target.take context.length ≠ context :=
    fun heq => hnot (List.prefix_iff_eq_take.mpr heq.symm)
  simp [relativePath, htake]

theorem length_joined_bounds :
    (joined base rest).length ≤ (joined base []).length + rest.length ∧
      (joined base []).length + rest.length ≤ (joined base rest).length + 1 := by
  simp only [joined, List.length_append, List.length_cons, List.head?_nil]
  split_ifs <;> simp <;> omega

theorem length_joined_lt (hcontext : 2 ≤ context.length) :
    (prependBasePath base (stripped rest)).length < (joined base (context ++ rest)).length := by
  have hlong := (@length_joined_bounds base (context ++ rest)).2
  rw [List.length_append] at hlong
  by_cases hroot : IsRoot base
  · have hbase : (joined base []).length = 1 := by rcases hroot with rfl | rfl <;> rfl
    have hstripped : (stripped rest).length ≤ rest.length + 1 := by
      unfold stripped
      split <;> simp
    rw [prependBasePath, if_pos hroot]
    omega
  · have hshort := (@length_joined_bounds base rest).1
    rw [prependBasePath_eq_joined_iff.mpr (.inl hroot), joined_stripped]
    omega

/-- What the filter makes of a target that starts with the context. -/
theorem placed_append_iff (hcontext : 2 ≤ context.length) :
    prependBasePath base (stripped rest) = joined base (kept (context ++ rest) context) ↔
      '?' ∉ context ∧
        (rest = [] ∨ rest.head? = some '/' ∨ rest.head? = some '?' ∧ ¬ IsRoot base) := by
  by_cases hboundary : AtBoundary (context ++ rest) context
  · have hquery := (prefix_of_atBoundary hboundary).2
    rw [kept, if_pos hboundary, List.drop_left, ← joined_stripped, prependBasePath_eq_joined_iff]
    rw [atBoundary_append hquery] at hboundary
    cases rest with
    | nil => simp [hquery, stripped]
    | cons next others =>
      have hstripped : stripped (next :: others) = next :: others := rfl
      rw [hstripped]
      grind
  · rw [kept, if_neg hboundary]
    refine iff_of_false (fun heq => (length_joined_lt hcontext).ne (congrArg List.length heq)) ?_
    rintro ⟨hquery, hends⟩
    refine hboundary ((atBoundary_append hquery).mpr ?_)
    exact hends.imp_right (Or.imp_right And.left)

theorem placed_root_iff {others : LuaString} :
    prependBasePath base ('/' :: others) = joined base (kept ('/' :: others) ['/']) ↔
      others.head? ≠ some '/' := by
  have hboundary : AtBoundary ('/' :: others) ['/'] ↔
      others = [] ∨ others.head? = some '/' ∨ others.head? = some '?' :=
    @atBoundary_append ['/'] others (by simp)
  rw [prependBasePath_eq_joined_iff.mpr (.inr rfl), kept]
  simp only [hboundary]
  cases others with
  | nil => simp [joined]
  | cons next rest =>
    by_cases hnext : next = '/'
    · simp [joined, hnext]
    · by_cases hquery : next = '?' <;> simp [joined, hnext, hquery]

/-- A rooted path without the context, unless the target starts with the context and goes on within
a segment, or with a query that nothing precedes. -/
theorem strips_at_boundary_iff (target context : RootedPath) (base : BasePath) :
    StripsAtBoundary target.chars context.chars base.chars ↔
      ContextEndsSegment target.chars context.chars base.chars := by
  have hcompute : computeUpstreamPath (some target.chars) (some context.chars) (some base.chars) =
      some (prependBasePath base.chars (relativePath target.chars context.chars)) := by
    obtain ⟨others, hchars⟩ := List.head?_eq_some_iff.mp target.rooted
    simp [computeUpstreamPath, hchars]
  -- a path that is put together as it should is rooted
  have hplaced : StripsAtBoundary target.chars context.chars base.chars ↔
      prependBasePath base.chars (relativePath target.chars context.chars) =
        joined base.chars (kept target.chars context.chars) := by
    rw [stripsAtBoundary_iff, hcompute, Option.some.injEq]
    refine and_iff_right_of_imp fun hjoined => ⟨_, rfl, ?_⟩
    rw [hjoined]
    exact head_joined base.rooted
  rw [hplaced]
  by_cases hstarts : context.chars <+: target.chars
  · obtain ⟨rest, hrest⟩ := hstarts
    simp only [ContextEndsSegment, ← hrest, List.append_cancel_left_eq, forall_eq']
    by_cases hroot : context.chars = ['/']
    · rw [if_pos hroot, hroot]
      exact placed_root_iff
    · have hlength : 2 ≤ context.chars.length := by
        obtain ⟨others, hchars⟩ := List.head?_eq_some_iff.mp context.rooted
        cases others with
        | nil => exact absurd hchars hroot
        | cons second others => simp [hchars]
      rw [if_neg hroot, relativePath_append hlength]
      exact placed_append_iff hlength
  · have hnot : ¬ AtBoundary target.chars context.chars :=
      fun hboundary => hstarts (prefix_of_atBoundary hboundary).1
    rw [relativePath_of_mismatch hstarts, kept, if_neg hnot]
    refine iff_of_true (prependBasePath_eq_joined_iff.mpr (.inr target.rooted)) ?_
    exact fun rest heq => absurd ⟨rest, heq.symm⟩ hstarts

/-- A context that is the beginning of a longer segment, and a query after the context. -/
theorem context_stripped_inside_segment :
    computeUpstreamPath (some "/weatherman/v1".toList) (some "/weather".toList) (some []) =
        some "man/v1".toList ∧
      computeUpstreamPath (some "/weather?city=x".toList) (some "/weather".toList) (some []) =
        some "?city=x".toList ∧
      ¬ StripsAtBoundary "/weatherman/v1".toList "/weather".toList [] := by
  refine ⟨by decide, by decide, fun hstrips => ?_⟩
  exact absurd hstrips.placed (by decide)

end ApiPlatform.Controller.Lua
