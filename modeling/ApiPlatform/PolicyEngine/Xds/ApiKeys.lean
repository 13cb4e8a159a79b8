import ApiPlatform.Common.ApiKeyStore
import ApiPlatform.PolicyEngine.Xds.Reconcile

/-!
# API keys from xDS

`HandleAPIKeyOperation` (`internal/xdsclient/api_key_handler.go`) replaces the keys
of the store by those of every resource that it receives, one resource after the
other.
-/

namespace ApiPlatform.PolicyEngine.Xds

open Foundation
open Common

structure APIKeyData where
  id : String
  name : String
  apiKey : String
  apiId : String
  applicationID : String
  applicationName : String
  operations : String
  status : String
  createdAt : Int
  createdBy : String
  updatedAt : Int
  expiresAt : Option Int
  source : String
  issuer : Option String
  allowedTargets : String
  deriving DecidableEq

def APIKeyData.toAPIKey (data : APIKeyData) : APIKey :=
  { id := data.id
    name := data.name
    displayName := ""
    apiKey := data.apiKey
    apiId := data.apiId
    applicationID := data.applicationID
    applicationName := data.applicationName
    operations := data.operations
    status := data.status
    createdAt := data.createdAt
    createdBy := data.createdBy
    updatedAt := data.updatedAt
    expiresAt := data.expiresAt
    source := data.source
    issuer := data.issuer
    allowedTargets := data.allowedTargets }

def APIKeyData.stored (data : APIKeyData) : APIKey :=
  data.toAPIKey.normalized

def apiKeyStateTypeURL : String := "api-platform.wso2.org/v1.APIKeyState"

/-! ## The handler -/

def storeAPIKeys (iteration : MapIteration String) :
    Nat → List APIKeyData → APIkeyStore → APIkeyStore × Option String
  | _, [], aks => (aks, none)
  | round, apiKeyData :: rest, aks =>
    match aks.storeAPIKey iteration round apiKeyData.apiId (some apiKeyData.toAPIKey) with
    | (aks, some err) => (aks, some ("failed to store API key " ++ apiKeyData.id ++ ": " ++ err))
    | (aks, none) => storeAPIKeys iteration (round + 1) rest aks

def replaceAllAPIKeys (iteration : MapIteration String) (round : Nat)
    (apiKeyDataList : List APIKeyData) (aks : APIkeyStore) : APIkeyStore × Option String :=
  storeAPIKeys iteration round apiKeyDataList aks.clearAll

/-- The resources in the order of the names.  An error of one resource is logged; only a resource
that cannot be decoded ends the operation. -/
def handleResources (decode : Resource → Except String (List APIKeyData))
    (iteration : MapIteration String) (resources : GoMap String Resource) :
    Nat → List String → APIkeyStore → APIkeyStore × Option String
  | _, [], aks => (aks, none)
  | round, resourceName :: rest, aks =>
    match resources.lookup resourceName with
    | none => handleResources decode iteration resources round rest aks
    | some resource =>
      if resource.typeUrl ≠ apiKeyStateTypeURL then
        handleResources decode iteration resources round rest aks
      else
        match decode resource with
        | .error err => (aks, some ("failed to unmarshal inner Any from resource " ++
            resourceName ++ ": " ++ err))
        | .ok apiKeys =>
          handleResources decode iteration resources (round + apiKeys.length) rest
            (replaceAllAPIKeys iteration round apiKeys aks).1

/-- `resourceOrder` is the order of the `range` over the resources, `iteration` that of the ranges
over the keys of an API. -/
def handleAPIKeyOperation (decode : Resource → Except String (List APIKeyData))
    (resourceOrder iteration : MapIteration String) (resources : GoMap String Resource)
    (aks : APIkeyStore) : APIkeyStore × Option String :=
  handleResources decode iteration resources 0 (resourceOrder.order 0 resources.keys) aks

/-! ## What the operation is for -/

/-- The store has exactly the listed keys, one for every API and hash. -/
structure HoldsUnion (lists : List (List APIKeyData)) (aks : APIkeyStore) : Prop where
  complete : ∀ keys ∈ lists, ∀ data ∈ keys,
    (lookupIn aks data.apiId data.stored.apiKey).isSome = true
  sound : ∀ apiId hash key, lookupIn aks apiId hash = some key →
    ∃ keys ∈ lists, ∃ data ∈ keys, data.stored = key ∧ data.apiId = apiId ∧ key.apiKey = hash

def SameKeys (left right : APIkeyStore) : Prop :=
  ∀ apiId hash, lookupIn left apiId hash = lookupIn right apiId hash

def keysIn (decode : Resource → Except String (List APIKeyData)) (resource : Resource) :
    List APIKeyData :=
  (decode resource).toOption.getD []

def listedKeys (decode : Resource → Except String (List APIKeyData))
    (resources : GoMap String Resource) : List (List APIKeyData) :=
  resources.entries.map fun entry => keysIn decode entry.2

def Rejects (iteration : MapIteration String) (lists : List (List APIKeyData)) : Prop :=
  ∃ keys ∈ lists, ∃ round, (replaceAllAPIKeys iteration round keys ∅).2 ≠ none

/-- The operation loads all keys, or changes nothing when one is refused. -/
structure ReplacesAtomically (decode : Resource → Except String (List APIKeyData))
    (resourceOrder iteration : MapIteration String) (resources : GoMap String Resource)
    (aks : APIkeyStore) : Prop where
  loads : ¬ Rejects iteration (listedKeys decode resources) →
    HoldsUnion (listedKeys decode resources)
      (handleAPIKeyOperation decode resourceOrder iteration resources aks).1
  keeps : Rejects iteration (listedKeys decode resources) →
    SameKeys (handleAPIKeyOperation decode resourceOrder iteration resources aks).1 aks

def WellTyped (decode : Resource → Except String (List APIKeyData))
    (resources : GoMap String Resource) : Prop :=
  ∀ name resource, resources.lookup name = some resource →
    resource.typeUrl = apiKeyStateTypeURL ∧ decode resource = .ok (keysIn decode resource)

def AllAccepted : List APIKey → List APIKeyData → Prop
  | _, [] => True
  | earlier, data :: rest =>
    Accepted earlier data.stored ∧ AllAccepted (earlier ++ [data.stored]) rest

/-- Every key is accepted in its resource, and every resource has, under the names it lists, all
hashes of all resources. -/
structure Replaceable (lists : List (List APIKeyData)) : Prop where
  accepted : ∀ keys ∈ lists, AllAccepted [] keys
  complete : ∀ keys ∈ lists, ∀ listed ∈ lists, ∀ data ∈ listed, ∃ name key,
    latest (keys.map APIKeyData.stored) data.apiId name = some key ∧
      key.apiKey = data.stored.apiKey

/-! ## One resource -/

section Loading

variable {iteration : MapIteration String}

theorem storeAPIKeys_spec {keys : List APIKeyData} : ∀ {round : Nat} {earlier : List APIKey}
    {aks : APIkeyStore}, Holds earlier aks →
    ((storeAPIKeys iteration round keys aks).2 = none ↔ AllAccepted earlier keys) ∧
    (AllAccepted earlier keys →
      Holds (earlier ++ keys.map APIKeyData.stored) (storeAPIKeys iteration round keys aks).1) := by
  induction keys with
  | nil =>
    intro round earlier aks hholds
    rw [storeAPIKeys, List.map_nil, List.append_nil]
    exact ⟨⟨fun _ => trivial, fun _ => rfl⟩, fun _ => hholds⟩
  | cons data rest ih =>
    intro round earlier aks hholds
    obtain ⟨hstored, hnext⟩ :=
      hholds.storeAPIKey iteration round data.toAPIKey
    rw [storeAPIKeys]
    split
    next aks' err hrun =>
      have hrun : aks.storeAPIKey iteration round data.toAPIKey.apiId (some data.toAPIKey) =
        (aks', some err) := hrun
      rw [hrun] at hstored
      have hrejected : ¬ Accepted earlier data.stored := fun haccepted =>
        nomatch hstored.mpr haccepted
      exact ⟨⟨nofun, fun hall => absurd hall.1 hrejected⟩, fun hall => absurd hall.1 hrejected⟩
    next aks' hrun =>
      have hrun : aks.storeAPIKey iteration round data.toAPIKey.apiId (some data.toAPIKey) =
        (aks', none) := hrun
      rw [hrun] at hstored hnext
      have haccepted := hstored.mp rfl
      obtain ⟨hrest, hholds'⟩ := @ih (round + 1) _ _ (hnext haccepted)
      rw [List.map_cons, List.append_cons]
      exact ⟨hrest.trans ⟨fun hall => ⟨haccepted, hall⟩, fun hall => hall.2⟩,
        fun hall => hholds' hall.2⟩

theorem replaceAllAPIKeys_spec (iteration : MapIteration String) (round : Nat)
    (keys : List APIKeyData) (aks : APIkeyStore) :
    ((replaceAllAPIKeys iteration round keys aks).2 = none ↔ AllAccepted [] keys) ∧
    (AllAccepted [] keys →
      Holds (keys.map APIKeyData.stored) (replaceAllAPIKeys iteration round keys aks).1) :=
  storeAPIKeys_spec Holds.empty

theorem holdsUnion_iff {lists : List (List APIKeyData)} {keys : List APIKeyData}
    {aks : APIkeyStore} (hholds : Holds (keys.map APIKeyData.stored) aks) (hmem : keys ∈ lists) :
    HoldsUnion lists aks ↔ ∀ listed ∈ lists, ∀ data ∈ listed, ∃ name key,
      latest (keys.map APIKeyData.stored) data.apiId name = some key ∧
        key.apiKey = data.stored.apiKey := by
  constructor
  · intro hunion listed hlisted data hdata
    obtain ⟨key, hkey⟩ := Option.isSome_iff_exists.mp (hunion.complete listed hlisted data hdata)
    exact ⟨key.name, key, (hholds.lookup_iff _ _ _).mp hkey⟩
  · intro hall
    refine ⟨fun listed hlisted data hdata => ?_, fun apiId hash key hlookup => ?_⟩
    · obtain ⟨name, key, hlatest, hhash⟩ := hall listed hlisted data hdata
      have hname := (latest_spec hlatest).2.2
      rw [(hholds.lookup_iff _ _ key).mpr ⟨by rw [hname, hlatest], hhash⟩]
      rfl
    · obtain ⟨hlatest, hhash⟩ := (hholds.lookup_iff _ _ _).mp hlookup
      obtain ⟨hkey, hapi, -⟩ := latest_spec hlatest
      obtain ⟨data, hdata, rfl⟩ := List.mem_map.mp hkey
      exact ⟨keys, hmem, data, hdata, rfl, hapi, hhash⟩

end Loading

/-! ## All resources -/

section Operation

variable {decode : Resource → Except String (List APIKeyData)} {resources : GoMap String Resource}
  {iteration : MapIteration String}

theorem mem_listedKeys {keys : List APIKeyData} : keys ∈ listedKeys decode resources ↔
    ∃ name resource, resources.lookup name = some resource ∧ keysIn decode resource = keys := by
  rw [listedKeys, List.mem_map]
  constructor
  · rintro ⟨⟨name, resource⟩, hentry, rfl⟩
    exact ⟨name, resource, AList.mem_lookup_iff.mpr hentry, rfl⟩
  · rintro ⟨name, resource, hlookup, rfl⟩
    exact ⟨⟨name, resource⟩, AList.mem_lookup_iff.mp hlookup, rfl⟩

theorem handleResources_cons (hwell : WellTyped decode resources) {name : String}
    {resource : Resource} (hlookup : resources.lookup name = some resource) (round : Nat)
    (rest : List String) (aks : APIkeyStore) :
    handleResources decode iteration resources round (name :: rest) aks =
      handleResources decode iteration resources (round + (keysIn decode resource).length) rest
        (replaceAllAPIKeys iteration round (keysIn decode resource) ∅).1 := by
  obtain ⟨htype, hdecode⟩ := hwell name resource hlookup
  rw [handleResources, hlookup]
  dsimp only
  rw [if_neg (not_not.mpr htype), hdecode]
  rfl

theorem handleResources_last (iteration : MapIteration String)
    (hwell : WellTyped decode resources) {last : String}
    {resource : Resource} (hlookup : resources.lookup last = some resource) {names : List String}
    (hnames : ∀ name ∈ names, name ∈ resources) : ∀ (round : Nat) (aks : APIkeyStore),
    ∃ round', (handleResources decode iteration resources round (names ++ [last]) aks).1 =
      (replaceAllAPIKeys iteration round' (keysIn decode resource) ∅).1 := by
  induction names with
  | nil =>
    intro round aks
    rw [List.nil_append, handleResources_cons hwell hlookup]
    exact ⟨round, rfl⟩
  | cons name rest ih =>
    intro round aks
    obtain ⟨first, hfirst⟩ := Option.isSome_iff_exists.mp
      (AList.lookup_isSome.mpr (hnames name List.mem_cons_self))
    rw [List.cons_append, handleResources_cons hwell hfirst]
    exact ih (fun name hmem => hnames name (List.mem_cons_of_mem _ hmem)) _ _

theorem handleAPIKeyOperation_congr (hwell : WellTyped decode resources)
    (hne : resources.keys ≠ []) (resourceOrder : MapIteration String) (aks aks' : APIkeyStore) :
    handleAPIKeyOperation decode resourceOrder iteration resources aks =
      handleAPIKeyOperation decode resourceOrder iteration resources aks' := by
  unfold handleAPIKeyOperation
  have hperm := resourceOrder.perm 0 resources.keys
  cases hnames : resourceOrder.order 0 resources.keys with
  | nil => exact absurd (List.nil_perm.mp (hnames ▸ hperm)) hne
  | cons name rest =>
    have hmem : name ∈ resources.keys := hperm.mem_iff.mp (hnames ▸ List.mem_cons_self)
    obtain ⟨resource, hlookup⟩ := Option.isSome_iff_exists.mp
      (AList.lookup_isSome.mpr (AList.mem_keys.mpr hmem))
    rw [handleResources_cons hwell hlookup, handleResources_cons hwell hlookup]

def orderLast (last : String) : MapIteration String where
  order := fun _ keys => if last ∈ keys then keys.erase last ++ [last] else keys
  perm := fun _ keys => by
    split
    next hmem =>
      exact (List.perm_append_comm.trans (List.perm_cons_erase hmem).symm)
    · exact List.Perm.refl keys

theorem not_rejects_iff {lists : List (List APIKeyData)} :
    ¬ Rejects iteration lists ↔ ∀ keys ∈ lists, AllAccepted [] keys := by
  constructor
  · intro hnone keys hkeys
    by_contra hrejected
    refine hnone ⟨keys, hkeys, 0, fun hok => hrejected ?_⟩
    exact (replaceAllAPIKeys_spec iteration 0 keys ∅).1.mp hok
  · rintro hall ⟨keys, hkeys, round, hrejected⟩
    exact hrejected ((replaceAllAPIKeys_spec iteration round keys ∅).1.mpr (hall keys hkeys))

theorem exists_last (hwell : WellTyped decode resources) (hne : resources.keys ≠ [])
    (resourceOrder : MapIteration String) (aks : APIkeyStore) :
    ∃ keys ∈ listedKeys decode resources, ∃ round,
      (handleAPIKeyOperation decode resourceOrder iteration resources aks).1 =
        (replaceAllAPIKeys iteration round keys ∅).1 := by
  have hperm := resourceOrder.perm 0 resources.keys
  have horder : resourceOrder.order 0 resources.keys ≠ [] := fun hnil =>
    hne (List.nil_perm.mp (hnil ▸ hperm))
  have hsplit := List.dropLast_append_getLast horder
  have hkeys : ∀ name ∈ resourceOrder.order 0 resources.keys, name ∈ resources := fun name hmem =>
    AList.mem_keys.mpr (hperm.mem_iff.mp hmem)
  obtain ⟨resource, hlookup⟩ := Option.isSome_iff_exists.mp
    (AList.lookup_isSome.mpr (hkeys _ (List.getLast_mem horder)))
  obtain ⟨round, hround⟩ := handleResources_last iteration hwell hlookup
    (fun name hmem => hkeys name (List.mem_of_mem_dropLast hmem)) 0 aks
  refine ⟨keysIn decode resource, mem_listedKeys.mpr ⟨_, resource, hlookup, rfl⟩, round, ?_⟩
  rw [handleAPIKeyOperation, ← hsplit, hround]

theorem exists_orderLast (hwell : WellTyped decode resources) {keys : List APIKeyData}
    (hkeys : keys ∈ listedKeys decode resources) (aks : APIkeyStore) :
    ∃ resourceOrder round,
      (handleAPIKeyOperation decode resourceOrder iteration resources aks).1 =
        (replaceAllAPIKeys iteration round keys ∅).1 := by
  obtain ⟨name, resource, hlookup, rfl⟩ := mem_listedKeys.mp hkeys
  have hmem : name ∈ resources.keys :=
    mem_keys_of_lookup hlookup
  have hothers : ∀ other ∈ resources.keys.erase name, other ∈ resources := fun other hother =>
    AList.mem_keys.mpr (List.mem_of_mem_erase hother)
  obtain ⟨round, hround⟩ := handleResources_last iteration hwell hlookup hothers 0 aks
  refine ⟨orderLast name, round, ?_⟩
  rw [handleAPIKeyOperation, ← hround]
  simp only [orderLast, if_pos hmem]

/-- From every store and in every order, the operation replaces the keys atomically if and only if
no key is refused and every resource lists all keys. -/
theorem replacesAtomically_iff (hwell : WellTyped decode resources) (hne : resources.keys ≠ []) :
    (∀ resourceOrder iteration aks,
      ReplacesAtomically decode resourceOrder iteration resources aks) ↔
      Replaceable (listedKeys decode resources) := by
  constructor
  · intro hall
    have haccepted : ¬ Rejects (storedOrder String) (listedKeys decode resources) := by
      intro hrejects
      -- the result is the same from two different stores, so it cannot be both of them
      have hempty := (hall (storedOrder _) _ ∅).keeps hrejects
      have hother := (hall (storedOrder _) _ (insertIn ∅ "" "" default)).keeps hrejects
      rw [handleAPIKeyOperation_congr hwell hne _ _ ∅] at hother
      have hsame := (hempty "" "").symm.trans (hother "" "")
      cases hsame
    refine ⟨not_rejects_iff.mp haccepted, fun keys hkeys => ?_⟩
    obtain ⟨resourceOrder, round, hlast⟩ := exists_orderLast hwell hkeys ∅
    have hunion := (hall resourceOrder _ ∅).loads haccepted
    rw [hlast] at hunion
    have hholds := (replaceAllAPIKeys_spec (storedOrder String) round keys ∅).2
      (not_rejects_iff.mp haccepted keys hkeys)
    exact (holdsUnion_iff hholds hkeys).mp hunion
  · intro hreplaceable resourceOrder iteration aks
    have haccepted : ¬ Rejects iteration (listedKeys decode resources) :=
      not_rejects_iff.mpr hreplaceable.accepted
    refine ⟨fun _ => ?_, fun hrejects => absurd hrejects haccepted⟩
    obtain ⟨keys, hkeys, round, hlast⟩ := exists_last hwell hne resourceOrder aks
    rw [hlast]
    have hholds := (replaceAllAPIKeys_spec iteration round keys ∅).2
      (hreplaceable.accepted keys hkeys)
    exact (holdsUnion_iff hholds hkeys).mpr (hreplaceable.complete keys hkeys)

end Operation

/-! ## Resources of a shop -/

def sampleKey (name hash : String) : APIKeyData :=
  { id := name, name := name, apiKey := hash, apiId := "shop", applicationID := ""
    applicationName := "", operations := "*", status := "active", createdAt := 0
    createdBy := "admin", updatedAt := 0, expiresAt := none, source := "local", issuer := none
    allowedTargets := "ALL" }

def sampleDecode (keys : List APIKeyData) : Resource → Except String (List APIKeyData) :=
  fun _ => .ok keys

def sampleResources : GoMap String Resource :=
  AList.singleton "keys" { typeUrl := apiKeyStateTypeURL, value := [] }

def sampleStore : APIkeyStore :=
  insertIn ∅ "shop" "h0" (sampleKey "alice" "h0").stored

/-- The second key has no hash: the first one replaces all keys of the store. -/
theorem sampleStore_partially_loaded :
    Rejects (storedOrder String)
        (listedKeys (sampleDecode [sampleKey "bob" "h1", sampleKey "carol" " "]) sampleResources) ∧
      lookupIn sampleStore "shop" "h0" = some (sampleKey "alice" "h0").stored ∧
      lookupIn (handleAPIKeyOperation
        (sampleDecode [sampleKey "bob" "h1", sampleKey "carol" " "]) (storedOrder String)
          (storedOrder String) sampleResources sampleStore).1 "shop" "h0" = none ∧
      lookupIn (handleAPIKeyOperation
        (sampleDecode [sampleKey "bob" "h1", sampleKey "carol" " "]) (storedOrder String)
          (storedOrder String) sampleResources sampleStore).1 "shop" "h1" =
        some (sampleKey "bob" "h1").stored ∧
      ¬ ReplacesAtomically (sampleDecode [sampleKey "bob" "h1", sampleKey "carol" " "])
        (storedOrder String) (storedOrder String) sampleResources sampleStore := by
  have hrejects : Rejects (storedOrder String)
      (listedKeys (sampleDecode [sampleKey "bob" "h1", sampleKey "carol" " "]) sampleResources) :=
    ⟨[sampleKey "bob" "h1", sampleKey "carol" " "], List.mem_cons_self, 0, by decide +kernel⟩
  refine ⟨hrejects, by decide +kernel, by decide +kernel, by decide +kernel, fun hatomic => ?_⟩
  have hsame := hatomic.keeps hrejects "shop" "h0"
  revert hsame
  decide +kernel

theorem sampleKeys_replaceable :
    Replaceable [[sampleKey "bob" "h1", sampleKey "carol" "h2"]] := by
  refine ⟨fun keys hkeys => ?_, fun keys hkeys listed hlisted data hdata => ?_⟩
  · obtain rfl := List.mem_singleton.mp hkeys
    refine ⟨⟨by decide, fun _ _ _ hlatest => nomatch hlatest⟩, ⟨by decide, ?_⟩, trivial⟩
    intro name _ other hlatest
    obtain rfl := List.mem_singleton.mp (latest_spec hlatest).1
    decide
  · obtain rfl := List.mem_singleton.mp hkeys
    obtain rfl := List.mem_singleton.mp hlisted
    rcases List.mem_cons.mp hdata with rfl | hdata
    · exact ⟨"bob", _, rfl, rfl⟩
    · obtain rfl := List.mem_singleton.mp hdata
      exact ⟨"carol", _, rfl, rfl⟩

theorem sampleResources_replaced :
    listedKeys (sampleDecode [sampleKey "bob" "h1", sampleKey "carol" "h2"]) sampleResources =
        [[sampleKey "bob" "h1", sampleKey "carol" "h2"]] ∧
      ∀ resourceOrder iteration aks,
        ReplacesAtomically (sampleDecode [sampleKey "bob" "h1", sampleKey "carol" "h2"])
          resourceOrder iteration sampleResources aks := by
  refine ⟨rfl, (replacesAtomically_iff ?_ (by decide)).mpr sampleKeys_replaceable⟩
  intro name resource hlookup
  have hentry := AList.mem_lookup_iff.mp hlookup
  obtain ⟨rfl, rfl⟩ : name = "keys" ∧
      resource = { typeUrl := apiKeyStateTypeURL, value := [] } := by
    simpa [sampleResources] using hentry
  exact ⟨rfl, rfl⟩

end ApiPlatform.PolicyEngine.Xds
