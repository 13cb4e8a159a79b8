import ApiPlatform.Controller.Models
import ApiPlatform.Foundation.GoStrings

/-!
# Policy versions

Semantic versions (`common/version`) and the resolution of the version that an
API asks of a policy against the loaded policy definitions
(`pkg/config/policy_validator.go`).
-/

namespace ApiPlatform.Controller

open Foundation

structure PolicyDefinition where
  name : String
  version : String
  deriving DecidableEq

/-! ## Semantic versions -/

def isFullSemver (version : String) : Bool :=
  match version.toList with
  | 'v' :: rest =>
    match rest.splitOn '.' with
    | [major, minor, patch] => isDigits major && isDigits minor && isDigits patch
    | _ => false
  | _ => false

def isMajorVersion (version : String) : Bool :=
  match version.toList with
  | 'v' :: rest => isDigits rest
  | _ => false

def parseSemver (version : String) : Option (Int × Int × Int) :=
  match split '.' (trimPrefix version "v") with
  | [major, minor, patch] => do
    let major ← atoi major
    let minor ← atoi minor
    let patch ← atoi patch
    some (major, minor, patch)
  | _ => none

def compareSemver (left right : String) : Ordering :=
  match parseSemver left, parseSemver right with
  | some (leftMajor, leftMinor, leftPatch), some (rightMajor, rightMinor, rightPatch) =>
    (compare leftMajor rightMajor).then
      ((compare leftMinor rightMinor).then (compare leftPatch rightPatch))
  | some _, none => .gt
  | none, some _ => .lt
  | none, none => compare left right

def majorVersion (version : String) : String :=
  let trimmed := trimSpace version
  if trimmed = "" then trimmed
  else
    match split '.' (trimPrefix trimmed "v") with
    | [] => trimmed
    | first :: _ =>
      match atoi first with
      | some major => "v" ++ toString major
      | none => trimmed

/-! ## Resolution -/

/-- `policyDefinitions` in the order in which the map is visited. -/
def buildLatestVersionIndex (definitions : List PolicyDefinition) : GoMap String String :=
  definitions.foldl (fun index definition =>
    if !isFullSemver definition.version then index
    else
      match index.lookup definition.name with
      | none => index.insert definition.name definition.version
      | some existing =>
        if compareSemver definition.version existing = .gt then
          index.insert definition.name definition.version
        else index) ∅

def resolvePolicyVersion (definitions : List PolicyDefinition)
    (latestVersions : GoMap String String) (name version : String) : Except String String :=
  let trimmed := trimSpace version
  if trimmed = "" then
    match latestVersions.lookup name with
    | some latest => .ok latest
    | none => .error ("policy '" ++ name ++ "' not found in loaded policy definitions")
  else if isFullSemver trimmed then
    .error ("policy '" ++ name ++ "' version must be major-only (e.g., v1); " ++
      "full semantic version (e.g., v1.0.0) is not allowed")
  else if isMajorVersion trimmed then
    let matchingVersions := (definitions.filter fun definition =>
      definition.name == name && isFullSemver definition.version &&
        hasPrefix definition.version (trimmed ++ ".")).map (·.version)
    match matchingVersions with
    | [] => .error ("policy '" ++ name ++ "' major version '" ++ trimmed ++
        "' not found in loaded policy definitions")
    | [resolved] => .ok resolved
    | _ => .error ("multiple matching versions for policy '" ++ name ++ "' major '" ++ trimmed ++
        "'; cannot resolve uniquely")
  else
    .error ("invalid version format '" ++ version ++ "' for policy '" ++ name ++
      "'; expected major-only version (e.g., v1)")

/-! ## The order of versions -/

/-- Versions that do not parse come first, in their order as strings. -/
theorem compareSemver_eq_compareLex : compareSemver =
    compareLex (compareOn fun version => (parseSemver version).map (·.1))
      (compareLex (compareOn fun version => (parseSemver version).map (·.2.1))
        (compareLex (compareOn fun version => (parseSemver version).map (·.2.2))
          (compareOn fun version => if (parseSemver version).isSome then "" else version))) := by
  funext left right
  dsimp only [compareSemver, compareLex, compareOn]
  cases parseSemver left <;> cases parseSemver right
  · rfl
  · rfl
  · rfl
  · simp only [Option.isSome_some, if_pos, Std.ReflCmp.compare_self, Ordering.then_eq]
    rfl

instance : Std.TransCmp compareSemver := by
  rw [compareSemver_eq_compareLex]
  infer_instance

/-! ## The versions of the loaded policies -/

def addVersion (versions : GoMap String String) (definition : PolicyDefinition) :
    GoMap String String :=
  if ∀ existing ∈ versions.lookup definition.name,
      compareSemver definition.version existing = .gt then
    versions.insert definition.name definition.version
  else versions

/-- The resolver's versions by name; the definitions come in the order in which the map
is visited. -/
def newLoadedPolicyVersionResolver (iteration : MapIteration String)
    (definitions : List PolicyDefinition) : GoMap String String :=
  let versions := definitions.foldl addVersion ∅
  insertAll versions ((iteration.order 0 versions.keys).map fun name =>
    (name, majorVersion ((versions.lookup name).getD "")))

/-- The highest loaded version of a policy, if any is loaded. -/
structure IsLatest (definitions : List PolicyDefinition) (name : String)
    (latest : Option String) : Prop where
  loaded : ∀ version ∈ latest, ⟨name, version⟩ ∈ definitions
  greatest : ∀ other, ⟨name, other⟩ ∈ definitions →
    ∃ version ∈ latest, (compareSemver other version).isLE

section Resolver

variable {definitions : List PolicyDefinition} {versions : GoMap String String} {name : String}

theorem lookup_addVersion (definition : PolicyDefinition) :
    (addVersion versions definition).lookup name =
      if name = definition.name ∧
          ∀ existing ∈ versions.lookup name, compareSemver definition.version existing = .gt then
        some definition.version
      else versions.lookup name := by
  unfold addVersion
  by_cases hname : name = definition.name
  · subst hname
    split
    next hgreater => rw [AList.lookup_insert, if_pos ⟨rfl, hgreater⟩]
    next hkept => rw [if_neg fun hnewer => hkept hnewer.2]
  · rw [if_neg (mt And.left hname)]
    split
    · exact AList.lookup_insert_ne hname
    · rfl

theorem IsLatest.addVersion (hlatest : IsLatest definitions name (versions.lookup name))
    (definition : PolicyDefinition) : IsLatest (definitions ++ [definition]) name
      ((addVersion versions definition).lookup name) := by
  rw [lookup_addVersion]
  split
  next hnewer =>
    obtain ⟨rfl, hgreater⟩ := hnewer
    refine ⟨by simp, fun other hother => ⟨definition.version, rfl, ?_⟩⟩
    rcases List.mem_append.mp hother with hold | hnew
    · obtain ⟨existing, hexisting, hlower⟩ := hlatest.greatest other hold
      have hswap : compareSemver existing definition.version = .lt :=
        Std.OrientedCmp.eq_swap.trans (congrArg Ordering.swap (hgreater existing hexisting))
      exact Std.TransCmp.isLE_trans hlower (Ordering.isLE_of_eq_lt hswap)
    · rw [← List.mem_singleton.mp hnew]
      simp [Std.ReflCmp.compare_self]
  next hkept =>
    refine ⟨fun version hversion => List.mem_append_left _ (hlatest.loaded version hversion),
      fun other hother => ?_⟩
    rcases List.mem_append.mp hother with hold | hnew
    · exact hlatest.greatest other hold
    · obtain rfl := List.mem_singleton.mp hnew
      simp only [true_and, not_forall] at hkept
      obtain ⟨existing, hexisting, hnotGreater⟩ := hkept
      exact ⟨existing, hexisting, Ordering.isLE_iff_ne_gt.mpr hnotGreater⟩

theorem isLatest_foldl (definitions : List PolicyDefinition) (name : String) :
    IsLatest definitions name ((definitions.foldl addVersion ∅).lookup name) := by
  induction definitions using List.reverseRecOn with
  | nil => exact ⟨by simp, by simp⟩
  | append_singleton definitions definition ih =>
    rw [List.foldl_append]
    exact ih.addVersion definition

theorem lookup_newLoadedPolicyVersionResolver (iteration : MapIteration String) :
    (newLoadedPolicyVersionResolver iteration definitions).lookup name =
      ((definitions.foldl addVersion ∅).lookup name).map majorVersion := by
  unfold newLoadedPolicyVersionResolver
  dsimp only
  cases hlookup : (definitions.foldl addVersion ∅).lookup name with
  | none =>
    rw [lookup_insertAll_of_not_mem, hlookup, Option.map_none]
    simpa [iteration.mem_order, AList.lookup_eq_none, AList.mem_keys] using hlookup
  | some version =>
    refine lookup_insertAll_eq ?_ ?_
    · simp only [List.mem_map, forall_exists_index, and_imp]
      rintro write key - rfl rfl
      rw [hlookup, Option.getD_some]
    · simpa [iteration.mem_order] using mem_keys_of_lookup hlookup

/-- Versions are totally preordered, and of the versions loaded for a name the highest
one gives the major version that the name resolves to. -/
theorem resolves_major_of_latest :
    ((∀ version, compareSemver version version = .eq) ∧
      (∀ left right, (compareSemver left right).isLE → (compareSemver right left).isLE →
        compareSemver left right = .eq) ∧
      (∀ first second third, (compareSemver first second).isLE →
        (compareSemver second third).isLE → (compareSemver first third).isLE) ∧
      ∀ left right, (compareSemver left right).isLE ∨ (compareSemver right left).isLE) ∧
    ∀ iteration definitions name, ∃ latest, IsLatest definitions name latest ∧
      (newLoadedPolicyVersionResolver iteration definitions).lookup name =
        latest.map majorVersion := by
  refine ⟨⟨fun _ => Std.ReflCmp.compare_self, fun _ _ => Std.OrientedCmp.isLE_antisymm,
    fun _ _ _ => Std.TransCmp.isLE_trans, fun left right => ?_⟩, fun iteration definitions name =>
      ⟨_, isLatest_foldl definitions name, lookup_newLoadedPolicyVersionResolver iteration⟩⟩
  have hswap : compareSemver right left = (compareSemver left right).swap :=
    Std.OrientedCmp.eq_swap
  rw [hswap]
  cases compareSemver left right <;> simp

theorem major_version_not_loaded :
    (newLoadedPolicyVersionResolver (storedOrder String) [⟨"cors", "v1.2.0"⟩]).lookup "cors" =
        some "v1" ∧
      compareSemver "v1" "v1.2.0" = .lt := by
  decide

end Resolver

end ApiPlatform.Controller
