import ApiPlatform.Common.ApiKeyStore

/-!
# Keys that a failed call loses

The policy engine accepts a provided key when the store has an active key under its hash.
`StoreAPIKey` removes the key that has the name before it looks for a conflict of the hash,
so a call that fails can take away a key that was accepted.
-/

namespace ApiPlatform.Common

open Foundation

def computeAPIKeyHash (sha256Hex : String → String) (plainAPIKey : String) : String :=
  let trimmedAPIKey := trimSpace plainAPIKey
  if trimmedAPIKey = "" then "" else sha256Hex trimmedAPIKey

namespace APIkeyStore

section Validation

variable (sha256Hex : String → String) (now : Int) (aks : APIkeyStore)

def resolveValidatedAPIKey (apiId providedAPIKey : String) (issuer : List String) :
    Except String (Option APIKey) :=
  let providedAPIKey := trimSpace providedAPIKey
  if providedAPIKey = "" then .error "API key is empty"
  else
    let hash := computeAPIKeyHash sha256Hex providedAPIKey
    if hash = "" then .error "failed to compute API key hash"
    else
      match lookupIn aks apiId hash with
      | none => .error "API key not found"
      | some key =>
        if key.apiId ≠ apiId then .ok none
        else if issuer.headD "" ≠ "" ∧ key.issuer ≠ some (issuer.headD "") then .ok none
        else if key.status ≠ "active" then .ok none
        else if key.status = "expired" ∨ key.expiresAt.any (· < now) then .ok none
        else .ok (some key)

def cloneKeys (iteration : MapIteration String) (round : Nat)
    (apiKeys : GoMap String (Option APIKey)) : Except String (GoMap String APIKey) :=
  (iteration.order round apiKeys.keys).foldlM
    (fun clonedKeys hash =>
      match (apiKeys.lookup hash).join with
      | none => .error errNilKey
      | some apiKey =>
        let clonedAPIKey := apiKey.normalized
        let normalizedHash := trimSpace hash
        if clonedAPIKey.apiKey = "" then .error errEmptyHash
        else if normalizedHash ≠ "" ∧ normalizedHash ≠ clonedAPIKey.apiKey then
          .error "invalid input: API key map hash does not match API key hash"
        else if (clonedKeys.lookup clonedAPIKey.apiKey).isSome then .error errConflict
        else .ok (clonedKeys.insert clonedAPIKey.apiKey clonedAPIKey)) ∅

def replaceAll (iteration : MapIteration String) (round : Nat)
    (newMap : GoMap String (GoMap String (Option APIKey))) : APIkeyStore × Option String :=
  let replacement : Except String APIkeyStore :=
    (iteration.order round newMap.keys).foldlM
      (fun replacement apiId =>
        let apiKeys := (newMap.lookup apiId).getD ∅
        if apiKeys.keys = [] then .ok replacement
        else (cloneKeys iteration round apiKeys).map (replacement.insert apiId ·)) ∅
  match replacement with
  | .error err => (aks, some err)
  | .ok replacement => (replacement, none)

end Validation

/-! ## What a failed call changes -/

variable {sha256Hex : String → String} {now : Int} {aks : APIkeyStore}

/-- Every provided key is accepted, and as the same key, after the call as before it. -/
def SameAccepted (sha256Hex : String → String) (now : Int) (aks next : APIkeyStore) : Prop :=
  ∀ apiId provided issuer key,
    next.resolveValidatedAPIKey sha256Hex now apiId provided issuer = .ok (some key) ↔
      aks.resolveValidatedAPIKey sha256Hex now apiId provided issuer = .ok (some key)

/-- The key can be used for the API, by whom has a text with the hash. -/
def Usable (sha256Hex : String → String) (now : Int) (apiId hash : String) (key : APIKey) : Prop :=
  (∃ provided, trimSpace provided ≠ "" ∧ hash ≠ "" ∧
      computeAPIKeyHash sha256Hex (trimSpace provided) = hash) ∧
    key.apiId = apiId ∧ key.status = "active" ∧ key.expiresAt.any (· < now) = false

/-- When the hash belongs to another key, the key that has the name was not usable. -/
def LosesNone (sha256Hex : String → String) (now : Int) (aks : APIkeyStore)
    (iteration : MapIteration String) (round : Nat) (apiId : String) (apiKey : APIKey) : Prop :=
  let existing := aks.existingHash iteration round apiId apiKey.name
  apiKey.normalized.apiKey ≠ "" → existing ≠ apiKey.normalized.apiKey →
    (lookupIn aks apiId apiKey.normalized.apiKey).isSome →
    ∀ old, lookupIn aks apiId existing = some old → ¬ Usable sha256Hex now apiId existing old

theorem resolveValidatedAPIKey_eq_some_iff {apiId provided : String} {issuer : List String}
    {key : APIKey} :
    aks.resolveValidatedAPIKey sha256Hex now apiId provided issuer = .ok (some key) ↔
      trimSpace provided ≠ "" ∧ computeAPIKeyHash sha256Hex (trimSpace provided) ≠ "" ∧
        lookupIn aks apiId (computeAPIKeyHash sha256Hex (trimSpace provided)) = some key ∧
        key.apiId = apiId ∧ (issuer.headD "" ≠ "" → key.issuer = some (issuer.headD "")) ∧
        key.status = "active" ∧ key.expiresAt.any (· < now) = false := by
  unfold resolveValidatedAPIKey
  by_cases hempty : trimSpace provided = ""
  · simp [hempty]
  by_cases hhash : computeAPIKeyHash sha256Hex (trimSpace provided) = ""
  · simp [hempty, hhash]
  rw [if_neg hempty, if_neg hhash, and_iff_right hempty, and_iff_right hhash]
  cases lookupIn aks apiId (computeAPIKeyHash sha256Hex (trimSpace provided)) with
  | none => simp
  | some found =>
    grind

theorem lookupIn_withoutName (iteration : MapIteration String) (round : Nat)
    (apiId name apiId' hash : String) :
    lookupIn (aks.withoutName iteration round apiId name) apiId' hash =
      if aks.existingHash iteration round apiId name ≠ "" ∧ apiId' = apiId ∧
        hash = aks.existingHash iteration round apiId name then none
      else lookupIn aks apiId' hash := by
  unfold withoutName
  dsimp only
  split
  next hfound => simp [lookupIn_eraseIn, hfound]
  next hnone => simp [hnone]

theorem sameAccepted_withoutName_iff (iteration : MapIteration String) (round : Nat)
    (apiId name : String) :
    SameAccepted sha256Hex now aks (aks.withoutName iteration round apiId name) ↔
      ∀ old, lookupIn aks apiId (aks.existingHash iteration round apiId name) = some old →
        ¬ Usable sha256Hex now apiId (aks.existingHash iteration round apiId name) old := by
  simp only [SameAccepted, resolveValidatedAPIKey_eq_some_iff, lookupIn_withoutName]
  constructor
  · rintro hsame old hold ⟨⟨provided, hprovided, hne, hhash⟩, hapi, hactive, hfresh⟩
    have hbefore := (hsame apiId provided [] old).mpr
    simp [hhash, hne, hprovided, hold, hapi, hactive, hfresh] at hbefore
  · intro hunused apiId' provided issuer key
    split
    next hremoved =>
      obtain ⟨hne, rfl, hhash⟩ := hremoved
      simp only [reduceCtorEq, false_and, and_false, false_iff]
      rintro ⟨hprovided, -, hold, hapi, -, hactive, hfresh⟩
      rw [hhash] at hold
      exact hunused key hold ⟨⟨provided, hprovided, hne, hhash⟩, hapi, hactive, hfresh⟩
    · rfl

theorem storeAPIKey_keeps_iff (iteration : MapIteration String) (round : Nat) (apiId : String)
    (key : APIKey) :
    ((aks.storeAPIKey iteration round apiId (some key)).2 ≠ none →
        SameAccepted sha256Hex now aks (aks.storeAPIKey iteration round apiId (some key)).1) ↔
      aks.LosesNone sha256Hex now iteration round apiId key := by
  have hname : key.normalized.name = key.name := rfl
  unfold storeAPIKey LosesNone
  dsimp only
  by_cases hempty : key.normalized.apiKey = ""
  · simp [hempty, SameAccepted]
  rw [if_neg hempty, hname]
  by_cases hexisting : aks.existingHash iteration round apiId key.name = key.normalized.apiKey
  · have hnone : lookupIn (aks.withoutName iteration round apiId key.name) apiId
        key.normalized.apiKey = none := by
      simp [lookupIn_withoutName, hexisting, hempty]
    simp [hexisting, hnone]
  · have hremaining : lookupIn (aks.withoutName iteration round apiId key.name) apiId
        key.normalized.apiKey = lookupIn aks apiId key.normalized.apiKey := by
      rw [lookupIn_withoutName, if_neg fun hsame => hexisting hsame.2.2.symm]
    by_cases hconflict : (lookupIn aks apiId key.normalized.apiKey).isSome
    · simp [hremaining, hempty, hexisting, hconflict, sameAccepted_withoutName_iff]
    · simp [hremaining, hconflict]

/-- A call that fails changes nothing about the accepted keys if and only if, when it fails for
the hash, the key that had the name was not usable; a failed replacement changes nothing. -/
theorem failed_call_keeps_keys_iff (sha256Hex : String → String) (now : Int) (aks : APIkeyStore)
    (iteration : MapIteration String) (round : Nat) (apiId : String) (apiKey : Option APIKey)
    (newMap : GoMap String (GoMap String (Option APIKey))) :
    (((aks.storeAPIKey iteration round apiId apiKey).2 ≠ none →
        SameAccepted sha256Hex now aks (aks.storeAPIKey iteration round apiId apiKey).1) ↔
      ∀ key ∈ apiKey, aks.LosesNone sha256Hex now iteration round apiId key) ∧
    ((aks.replaceAll iteration round newMap).2 ≠ none →
      SameAccepted sha256Hex now aks (aks.replaceAll iteration round newMap).1) := by
  constructor
  · cases apiKey with
    | none => simp [storeAPIKey, SameAccepted]
    | some key =>
      rw [storeAPIKey_keeps_iff]
      simp
  · unfold replaceAll
    dsimp only
    split
    · exact fun _ _ _ _ _ => Iff.rfl
    · simp

def namedKey (name hash : String) : APIKey :=
  { (default : APIKey) with name := name, apiKey := hash, apiId := "pets", status := "active" }

/-- Storing the key of one name under the hash of another fails and removes the first key. -/
theorem failed_store_loses_key :
    let hashed : String → String := fun text => "sha256:" ++ text
    let first := (storeAPIKey ∅ (storedOrder String) 0 "pets" (namedKey "cats" "sha256:a")).1
    let both := (first.storeAPIKey (storedOrder String) 0 "pets" (namedKey "dogs" "sha256:b")).1
    let failed := both.storeAPIKey (storedOrder String) 0 "pets" (namedKey "cats" "sha256:b")
    both.resolveValidatedAPIKey hashed 0 "pets" "a" [] = .ok (some (namedKey "cats" "sha256:a")) ∧
      failed.2 = some errConflict ∧
      failed.1.resolveValidatedAPIKey hashed 0 "pets" "a" [] = .error "API key not found" := by
  decide +kernel

end APIkeyStore

end ApiPlatform.Common
