import ApiPlatform.Foundation.GoMaps
import ApiPlatform.Foundation.GoStrings

/-!
# The API keys of the policy engine

The in-memory store with which the policy engine checks API keys
(`common/apikey/store.go`).  The keys of an API stand under their hashes; a name
belongs to at most one of them.
-/

namespace ApiPlatform.Common

open Foundation

structure APIKey where
  id : String
  name : String
  displayName : String
  apiKey : String
  apiId : String
  applicationID : String
  applicationName : String
  operations : String
  status : String
  createdAt : Int
  createdBy : String
  updatedAt : Int
  expiresAt : Option Int
  source : String
  issuer : Option String
  allowedTargets : String
  deriving DecidableEq, Inhabited

def APIKey.normalized (key : APIKey) : APIKey :=
  { key with apiKey := trimSpace key.apiKey }

abbrev APIkeyStore := GoMap String (GoMap String APIKey)

namespace APIkeyStore

variable (aks : APIkeyStore)

def errNilKey : String := "API key cannot be nil"

def errEmptyHash : String := "invalid input: API key hash cannot be empty"

def errConflict : String := "API key already exists"

/-- The hash under which the API has a key of that name, and "" when there is none. -/
def existingHash (iteration : MapIteration String) (round : Nat) (apiId name : String) : String :=
  (rangeFind iteration round ((aks.lookup apiId).getD ∅) (·.name == name)).getD ""

def withoutName (iteration : MapIteration String) (round : Nat) (apiId name : String) :
    APIkeyStore :=
  let existing := existingHash aks iteration round apiId name
  if existing ≠ "" then eraseIn aks apiId existing else aks

/-- The store afterwards, and the error.  The key that has the name is removed before the hash is
checked. -/
def storeAPIKey (iteration : MapIteration String) (round : Nat) (apiId : String)
    (apiKey : Option APIKey) : APIkeyStore × Option String :=
  match apiKey with
  | none => (aks, some errNilKey)
  | some apiKey =>
    let apiKey := apiKey.normalized
    if apiKey.apiKey = "" then (aks, some errEmptyHash)
    else
      let remaining := withoutName aks iteration round apiId apiKey.name
      if (lookupIn remaining apiId apiKey.apiKey).isSome then (remaining, some errConflict)
      else (insertIn remaining apiId apiKey.apiKey apiKey, none)

def clearAll (_ : APIkeyStore) : APIkeyStore :=
  ∅

end APIkeyStore

/-! ## The keys that a list of keys leaves -/

def latest (keys : List APIKey) (apiId name : String) : Option APIKey :=
  (keys.filter fun key => key.apiId = apiId ∧ key.name = name).getLast?

structure Accepted (earlier : List APIKey) (key : APIKey) : Prop where
  ne_empty : key.apiKey ≠ ""
  unused : ∀ name ≠ key.name, ∀ other, latest earlier key.apiId name = some other →
    other.apiKey ≠ key.apiKey

structure Holds (keys : List APIKey) (aks : APIkeyStore) : Prop where
  lookup_iff : ∀ apiId hash key, lookupIn aks apiId hash = some key ↔
    latest keys apiId key.name = some key ∧ key.apiKey = hash
  ne_empty : ∀ apiId key, lookupIn aks apiId "" ≠ some key

section Loading

variable {keys : List APIKey} {aks : APIkeyStore} {iteration : MapIteration String} {round : Nat}

theorem latest_append (key : APIKey) (apiId name : String) :
    latest (keys ++ [key]) apiId name =
      if key.apiId = apiId ∧ key.name = name then some key else latest keys apiId name := by
  unfold latest
  by_cases hkey : key.apiId = apiId ∧ key.name = name
  · simp [hkey]
  · simp [hkey]

theorem latest_spec {apiId name : String} {key : APIKey}
    (hlatest : latest keys apiId name = some key) :
    key ∈ keys ∧ key.apiId = apiId ∧ key.name = name := by
  have hmem := List.mem_of_getLast? hlatest
  simpa using hmem

theorem Holds.empty : Holds [] ∅ :=
  ⟨fun _ _ _ => ⟨nofun, nofun⟩, fun _ _ => nofun⟩

theorem Holds.lookupIn_withoutName (hholds : Holds keys aks) (apiId name apiId' hash : String) :
    lookupIn (aks.withoutName iteration round apiId name) apiId' hash =
      (lookupIn aks apiId' hash).filter fun key => ¬ (apiId' = apiId ∧ key.name = name) := by
  unfold APIkeyStore.withoutName APIkeyStore.existingHash
  cases hfind : rangeFind iteration round ((aks.lookup apiId).getD ∅) (·.name == name) with
  | none =>
    rw [Option.getD_none, if_neg (not_not.mpr rfl)]
    cases hlookup : lookupIn aks apiId' hash with
    | none => rfl
    | some key =>
      have hother : ¬ (apiId' = apiId ∧ key.name = name) := by
        rintro ⟨rfl, hname⟩
        have hfalse := not_accepts_of_rangeFind hfind (lookup_inner.trans hlookup)
        simp [hname] at hfalse
      rw [Option.filter_some, if_pos (decide_eq_true hother)]
  | some existing =>
    obtain ⟨old, hold, hname⟩ := exists_of_rangeFind hfind
    rw [lookup_inner] at hold
    obtain ⟨hlatest, hhash⟩ := (hholds.lookup_iff _ _ _).mp hold
    have hname : old.name = name := by simpa using hname
    have hne : existing ≠ "" := by
      rintro rfl
      exact hholds.ne_empty _ _ hold
    rw [Option.getD_some, if_pos hne, lookupIn_eraseIn]
    split
    next hsame =>
      rw [hsame.1, hsame.2, hold, Option.filter_some, if_neg (by simpa using hname)]
    next hdiffers =>
      cases hlookup : lookupIn aks apiId' hash with
      | none => rfl
      | some key =>
        have hother : ¬ (apiId' = apiId ∧ key.name = name) := by
          rintro ⟨rfl, hkey⟩
          obtain ⟨hkeyLatest, hkeyHash⟩ := (hholds.lookup_iff _ _ _).mp hlookup
          rw [hkey, ← hname, hlatest] at hkeyLatest
          obtain rfl := Option.some.inj hkeyLatest
          exact hdiffers ⟨rfl, hkeyHash.symm.trans hhash⟩
        rw [Option.filter_some, if_pos (decide_eq_true hother)]

theorem Holds.conflict_iff (hholds : Holds keys aks) (key : APIKey) :
    ((lookupIn aks key.apiId key.apiKey).filter fun other =>
      ¬ (key.apiId = key.apiId ∧ other.name = key.name)).isSome = true ↔
      ∃ name ≠ key.name, ∃ other, latest keys key.apiId name = some other ∧
        other.apiKey = key.apiKey := by
  rw [Option.isSome_iff_exists]
  constructor
  · rintro ⟨other, hother⟩
    obtain ⟨hlookup, hname⟩ := Option.filter_eq_some_iff.mp hother
    obtain ⟨hlatest, hhash⟩ := (hholds.lookup_iff _ _ _).mp hlookup
    exact ⟨other.name, by simpa using hname, other, hlatest, hhash⟩
  · rintro ⟨name, hname, other, hlatest, hhash⟩
    have hnames := (latest_spec hlatest).2.2
    refine ⟨other, Option.filter_eq_some_iff.mpr ⟨?_, by simpa [hnames] using hname⟩⟩
    exact (hholds.lookup_iff _ _ _).mpr ⟨by rw [hnames, hlatest], hhash⟩

theorem Holds.isSome_withoutName_iff (hholds : Holds keys aks) {key : APIKey}
    (hne : key.apiKey ≠ "") :
    (lookupIn (aks.withoutName iteration round key.apiId key.name) key.apiId key.apiKey).isSome =
      true ↔ ¬ Accepted keys key := by
  rw [hholds.lookupIn_withoutName]
  refine (hholds.conflict_iff key).trans ⟨?_, ?_⟩
  · rintro ⟨name, hname, other, hlatest, hhash⟩ haccepted
    exact haccepted.unused name hname other hlatest hhash
  · intro hrejected
    by_contra hnone
    refine hrejected ⟨hne, fun name hname other hlatest hhash => ?_⟩
    exact hnone ⟨name, hname, other, hlatest, hhash⟩

theorem Holds.insert (hholds : Holds keys aks) {key : APIKey} (haccepted : Accepted keys key) :
    Holds (keys ++ [key]) (insertIn (aks.withoutName iteration round key.apiId key.name) key.apiId
      key.apiKey key) := by
  refine ⟨fun apiId hash other => ?_, fun apiId other => ?_⟩
  · rw [lookupIn_insertIn, latest_append]
    by_cases hentry : apiId = key.apiId ∧ hash = key.apiKey
    · obtain ⟨rfl, rfl⟩ := hentry
      rw [if_pos ⟨rfl, rfl⟩]
      by_cases hname : key.name = other.name
      · rw [if_pos ⟨rfl, hname⟩]
        exact ⟨fun heq => ⟨heq, by rw [Option.some.inj heq]⟩, fun heq => heq.1⟩
      · rw [if_neg fun hsame => hname hsame.2]
        constructor
        · intro heq
          exact absurd (congrArg APIKey.name (Option.some.inj heq)) hname
        · rintro ⟨hlatest, hhash⟩
          exact absurd hhash (haccepted.unused _ (Ne.symm hname) other hlatest)
    · rw [if_neg hentry, hholds.lookupIn_withoutName, Option.filter_eq_some_iff, hholds.lookup_iff]
      by_cases hname : key.apiId = apiId ∧ key.name = other.name
      · rw [if_pos hname]
        constructor
        · rintro ⟨-, hother⟩
          exact absurd ⟨hname.1.symm, hname.2.symm⟩ (of_decide_eq_true hother)
        · rintro ⟨heq, rfl⟩
          obtain rfl := Option.some.inj heq
          exact absurd ⟨hname.1.symm, rfl⟩ hentry
      · rw [if_neg hname]
        refine and_iff_left (decide_eq_true fun hother => hname ⟨hother.1.symm, hother.2.symm⟩)
  · rw [lookupIn_insertIn, if_neg fun hentry => haccepted.ne_empty hentry.2.symm,
      hholds.lookupIn_withoutName]
    intro hfilter
    exact hholds.ne_empty _ _ (Option.filter_eq_some_iff.mp hfilter).1

theorem Holds.storeAPIKey (hholds : Holds keys aks) (iteration : MapIteration String) (round : Nat)
    (key : APIKey) :
    ((aks.storeAPIKey iteration round key.apiId (some key)).2 = none ↔
      Accepted keys key.normalized) ∧
    (Accepted keys key.normalized →
      Holds (keys ++ [key.normalized])
        (aks.storeAPIKey iteration round key.apiId (some key)).1) := by
  unfold APIkeyStore.storeAPIKey
  dsimp only
  split
  next hempty =>
    have hrejected : ¬ Accepted keys key.normalized := fun haccepted => haccepted.ne_empty hempty
    exact ⟨iff_of_false (by simp) hrejected, fun haccepted => absurd haccepted hrejected⟩
  next hne =>
    split
    next hsome =>
      have hrejected := (hholds.isSome_withoutName_iff hne).mp hsome
      exact ⟨iff_of_false (by simp) hrejected, fun haccepted => absurd haccepted hrejected⟩
    next hnone =>
      have haccepted : Accepted keys key.normalized :=
        not_not.mp (mt (hholds.isSome_withoutName_iff hne).mpr hnone)
      exact ⟨⟨fun _ => haccepted, fun _ => rfl⟩, fun _ => hholds.insert haccepted⟩

end Loading

end ApiPlatform.Common
