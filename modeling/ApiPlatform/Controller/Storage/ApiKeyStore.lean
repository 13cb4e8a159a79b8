import ApiPlatform.Controller.ApiKeys.Table

/-!
# The API keys of the xDS server

The store whose keys the policy engine is sent (`pkg/storage/apikey_store.go`).
It has the keys twice: under the artifact and the name, and under the artifact
and the UUID.
-/

namespace ApiPlatform.Controller.Storage

open Foundation
open Controller.ApiKeys (APIKey KeyID)

def getCompositeKey (apiId keyName : String) : String :=
  apiId ++ ":" ++ keyName

/-- The UUID of the first key of that name which a `range` over the keys meets. -/
def existingKeyID (iteration : MapIteration String) (round : Nat)
    (existingKeys : GoMap String APIKey) (name : String) : String :=
  ((iteration.order round existingKeys.keys).find? fun id =>
    (existingKeys.lookup id).any (·.name == name)).getD ""

structure APIKeyStore where
  apiKeys : GoMap String APIKey
  apiKeysByAPI : GoMap String (GoMap String APIKey)

namespace APIKeyStore

def empty : APIKeyStore :=
  ⟨∅, ∅⟩

section Operations

variable (keyStore : APIKeyStore)

def existingID (iteration : MapIteration String) (round : Nat) (apiKey : APIKey) : String :=
  existingKeyID iteration round
    ((keyStore.apiKeysByAPI.lookup apiKey.artifactUUID).getD ∅) apiKey.name

/-- Adds or updates a key; the key that has the name is taken out first. -/
def store (iteration : MapIteration String) (round : Nat) (apiKey : APIKey) : APIKeyStore :=
  let compositeKey := getCompositeKey apiKey.artifactUUID apiKey.name
  let existing := keyStore.existingID iteration round apiKey
  { apiKeys :=
      (if existing ≠ "" then keyStore.apiKeys.erase compositeKey else keyStore.apiKeys).insert
        compositeKey apiKey
    apiKeysByAPI :=
      insertIn
        (if existing ≠ "" then eraseIn keyStore.apiKeysByAPI apiKey.artifactUUID existing
          else keyStore.apiKeysByAPI)
        apiKey.artifactUUID apiKey.uuid apiKey }

def storeAll (iteration : MapIteration String) (round : Nat) (apiKeys : List APIKey) :
    APIKeyStore :=
  (apiKeys.zipIdx round).foldl (fun keyStore apiKey => keyStore.store iteration apiKey.2 apiKey.1)
    keyStore

def getAll : List APIKey :=
  keyStore.apiKeys.entries.map (·.2)

def removeFromAPIMapping (apiKey : APIKey) : GoMap String (GoMap String APIKey) :=
  dropEmpty (eraseIn keyStore.apiKeysByAPI apiKey.artifactUUID apiKey.uuid) apiKey.artifactUUID

/-- Removes the key of that name, and says whether there was one. -/
def revoke (apiId apiKeyName : String) : APIKeyStore × Bool :=
  match keyStore.apiKeys.lookup (getCompositeKey apiId apiKeyName) with
  | none => (keyStore, false)
  | some apiKey =>
    ({ apiKeys := keyStore.apiKeys.erase (getCompositeKey apiId apiKeyName)
       apiKeysByAPI := keyStore.removeFromAPIMapping apiKey }, true)

def compositeKeys (apiId : String) : List String :=
  ((keyStore.apiKeysByAPI.lookup apiId).getD ∅).entries.map fun entry =>
    getCompositeKey entry.2.artifactUUID entry.2.name

def removeByAPI (apiId : String) : APIKeyStore where
  apiKeys := eraseAll keyStore.apiKeys (keyStore.compositeKeys apiId)
  apiKeysByAPI := keyStore.apiKeysByAPI.erase apiId

def entry (id : KeyID) : Option APIKey :=
  keyStore.apiKeys.lookup (getCompositeKey id.artifactUUID id.name)

end Operations

end APIKeyStore

/-! ## Names and identifiers -/

/-- An artifact UUID without the separator of the composite keys. -/
def SeparatorFree (apiId : String) : Prop :=
  ':' ∉ apiId.toList

instance (apiId : String) : Decidable (SeparatorFree apiId) :=
  inferInstanceAs (Decidable (_ ∉ _))

theorem getCompositeKey_inj {apiId apiId' name name' : String} (hleft : SeparatorFree apiId)
    (hright : SeparatorFree apiId') :
    getCompositeKey apiId name = getCompositeKey apiId' name' ↔ apiId = apiId' ∧ name = name' := by
  have hchars (left right : String) :
      (getCompositeKey left right).toList = left.toList ++ ':' :: right.toList := by
    simp [getCompositeKey, String.toList_append]
  rw [← String.toList_inj, hchars, hchars, append_mark_inj hleft hright]
  simp [String.toList_inj]

section ExistingKey

variable (iteration : MapIteration String) (round : Nat) (keys : GoMap String APIKey)
  (name : String)

/-- A key of the name is found, or no key has the name. -/
theorem existingKeyID_cases :
    (∃ key, keys.lookup (existingKeyID iteration round keys name) = some key ∧ key.name = name) ∨
      existingKeyID iteration round keys name = "" ∧
        ∀ id key, keys.lookup id = some key → key.name ≠ name := by
  change (∃ key, keys.lookup ((rangeFind iteration round keys (·.name == name)).getD "") = _ ∧ _) ∨
    (rangeFind iteration round keys (·.name == name)).getD "" = "" ∧ _
  cases hfind : rangeFind iteration round keys (·.name == name) with
  | none => exact .inr ⟨rfl, fun id key hkey => by simpa using not_accepts_of_rangeFind hfind hkey⟩
  | some id =>
    obtain ⟨key, hkey, hname⟩ := exists_of_rangeFind hfind
    exact .inl ⟨key, hkey, by simpa using hname⟩

end ExistingKey

/-! ## The two maps -/

/-- Every key of the store is indexed under its artifact and UUID, where `owner`
is the identifier that each UUID stands for. -/
structure APIKeyStore.Coherent (owner : String → KeyID) (keyStore : APIKeyStore) : Prop where
  indexed : ∀ {compositeKey key}, keyStore.apiKeys.lookup compositeKey = some key →
    compositeKey = getCompositeKey key.artifactUUID key.name ∧
      lookupIn keyStore.apiKeysByAPI key.artifactUUID key.uuid = some key
  placed : ∀ {apiId uuid key}, lookupIn keyStore.apiKeysByAPI apiId uuid = some key →
    key.artifactUUID = apiId ∧ key.uuid = uuid ∧ owner uuid = key.id ∧ SeparatorFree apiId

namespace APIKeyStore

variable {owner : String → KeyID} {keyStore : APIKeyStore} {iteration : MapIteration String}
  {round : Nat} {key : APIKey} {id : KeyID} {apiId name : String}

theorem coherent_empty : empty.Coherent owner where
  indexed := by simp [empty]
  placed := by simp [empty, lookupIn]

theorem Coherent.id_of_entry (hcoherent : keyStore.Coherent owner)
    (hid : SeparatorFree id.artifactUUID) (hentry : keyStore.entry id = some key) :
    key.id = id := by
  obtain ⟨hcomposite, hindex⟩ := hcoherent.indexed hentry
  have hkey := (hcoherent.placed hindex).2.2.2
  obtain ⟨hartifact, hname⟩ := (getCompositeKey_inj hid hkey).mp hcomposite
  simp [APIKey.id, ← hartifact, ← hname]

theorem Coherent.mem_getAll_iff (hcoherent : keyStore.Coherent owner) :
    key ∈ keyStore.getAll ↔ SeparatorFree key.artifactUUID ∧ keyStore.entry key.id = some key := by
  constructor
  · intro hmem
    obtain ⟨⟨compositeKey, stored⟩, hentry, rfl⟩ := List.mem_map.mp hmem
    have hlookup := AList.mem_lookup_iff.mpr hentry
    obtain ⟨hcomposite, hindex⟩ := hcoherent.indexed hlookup
    refine ⟨(hcoherent.placed hindex).2.2.2, ?_⟩
    rw [hcomposite] at hlookup
    exact hlookup
  · rintro ⟨_, hentry⟩
    exact List.mem_map.mpr ⟨⟨_, key⟩, AList.mem_lookup_iff.mp hentry, rfl⟩

/-! ### Storing a key -/

theorem lookup_store (compositeKey : String) :
    (keyStore.store iteration round key).apiKeys.lookup compositeKey =
      if compositeKey = getCompositeKey key.artifactUUID key.name then some key
      else keyStore.apiKeys.lookup compositeKey := by
  unfold store
  by_cases hsame : compositeKey = getCompositeKey key.artifactUUID key.name
  · subst hsame
    simp
  · rw [if_neg hsame, AList.lookup_insert_ne hsame]
    split
    · exact AList.lookup_erase_ne hsame
    · rfl

theorem entry_store (hid : SeparatorFree id.artifactUUID) (hkey : SeparatorFree key.artifactUUID) :
    (keyStore.store iteration round key).entry id =
      if id = key.id then some key else keyStore.entry id := by
  have hids : id = key.id ↔ id.artifactUUID = key.artifactUUID ∧ id.name = key.name :=
    KeyID.ext_iff
  unfold entry
  simp only [lookup_store, getCompositeKey_inj hid hkey, hids]

theorem lookupIn_store (uuid : String) :
    lookupIn (keyStore.store iteration round key).apiKeysByAPI apiId uuid =
      if apiId = key.artifactUUID ∧ uuid = key.uuid then some key
      else if apiId = key.artifactUUID ∧ uuid = keyStore.existingID iteration round key ∧ uuid ≠ ""
        then none
      else lookupIn keyStore.apiKeysByAPI apiId uuid := by
  unfold store
  rw [lookupIn_insertIn]
  by_cases hexisting : keyStore.existingID iteration round key = ""
  · simp +contextual [hexisting]
  · rw [if_pos hexisting, lookupIn_eraseIn]
    grind

theorem exists_lookupIn_existingID (hexisting : keyStore.existingID iteration round key ≠ "") :
    ∃ replaced, lookupIn keyStore.apiKeysByAPI key.artifactUUID
        (keyStore.existingID iteration round key) = some replaced ∧ replaced.name = key.name := by
  obtain ⟨replaced, hlookup, hname⟩ :=
    (existingKeyID_cases iteration round _ key.name).resolve_right fun hnone => hexisting hnone.1
  rw [lookup_inner] at hlookup
  exact ⟨replaced, hlookup, hname⟩

theorem Coherent.store (hcoherent : keyStore.Coherent owner) (hkey : SeparatorFree key.artifactUUID)
    (howner : owner key.uuid = key.id) : (keyStore.store iteration round key).Coherent owner where
  indexed := by
    intro compositeKey stored hlookup
    rw [lookup_store] at hlookup
    split at hlookup
    next hsame =>
      cases hlookup
      exact ⟨hsame, by simp [lookupIn_store]⟩
    next hother =>
      obtain ⟨hcomposite, hindex⟩ := hcoherent.indexed hlookup
      refine ⟨hcomposite, ?_⟩
      rw [lookupIn_store, if_neg, if_neg, hindex]
      · -- the key that is taken out had the name of the new one
        rintro ⟨hartifact, huuid, hne⟩
        obtain ⟨replaced, hreplaced, hname⟩ := exists_lookupIn_existingID (huuid ▸ hne)
        rw [← huuid, ← hartifact, hindex] at hreplaced
        cases hreplaced
        exact hother (by rw [hcomposite, hartifact, hname])
      · rintro ⟨hartifact, huuid⟩
        have hid : stored.id = key.id := by
          rw [← (hcoherent.placed hindex).2.2.1, huuid, howner]
        have hname : stored.name = key.name := (KeyID.ext_iff.mp hid).2
        exact hother (by rw [hcomposite, hartifact, hname])
  placed := by
    intro apiId uuid stored hlookup
    rw [lookupIn_store] at hlookup
    split at hlookup
    next hsame =>
      cases hlookup
      exact ⟨hsame.1.symm, hsame.2.symm, hsame.2 ▸ howner, hsame.1 ▸ hkey⟩
    next =>
      split at hlookup
      · cases hlookup
      · exact hcoherent.placed hlookup

theorem storeAll_cons (apiKey : APIKey) (rest : List APIKey) :
    keyStore.storeAll iteration round (apiKey :: rest) =
      (keyStore.store iteration round apiKey).storeAll iteration (round + 1) rest :=
  rfl

theorem Coherent.storeAll {apiKeys : List APIKey} (hcoherent : keyStore.Coherent owner)
    (hnamed : ∀ apiKey ∈ apiKeys, SeparatorFree apiKey.artifactUUID ∧
      owner apiKey.uuid = apiKey.id) :
    (keyStore.storeAll iteration round apiKeys).Coherent owner := by
  induction apiKeys generalizing keyStore round with
  | nil => exact hcoherent
  | cons first rest ih =>
    obtain ⟨hfree, howner⟩ := hnamed first List.mem_cons_self
    exact ih (hcoherent.store hfree howner)
      fun apiKey hmem => hnamed apiKey (List.mem_cons_of_mem _ hmem)

theorem entry_storeAll {apiKeys : List APIKey} (keyStore : APIKeyStore)
    (iteration : MapIteration String) (round : Nat) (hid : SeparatorFree id.artifactUUID)
    (hfree : ∀ apiKey ∈ apiKeys, SeparatorFree apiKey.artifactUUID) :
    (∃ apiKey ∈ apiKeys, apiKey.id = id ∧
        (keyStore.storeAll iteration round apiKeys).entry id = some apiKey) ∨
      (∀ apiKey ∈ apiKeys, apiKey.id ≠ id) ∧
        (keyStore.storeAll iteration round apiKeys).entry id = keyStore.entry id := by
  induction apiKeys generalizing keyStore round with
  | nil => exact .inr ⟨by simp, rfl⟩
  | cons first rest ih =>
    rw [storeAll_cons]
    have hrest : ∀ apiKey ∈ rest, SeparatorFree apiKey.artifactUUID :=
      fun apiKey hmem => hfree apiKey (List.mem_cons_of_mem _ hmem)
    rcases ih (keyStore.store iteration round first) (round + 1) hrest with
      ⟨last, hlast, hlastID, hentry⟩ | ⟨habsent, hentry⟩
    · exact .inl ⟨last, List.mem_cons_of_mem _ hlast, hlastID, hentry⟩
    · rw [hentry, entry_store hid (hfree first List.mem_cons_self)]
      by_cases hsame : id = first.id
      · exact .inl ⟨first, List.mem_cons_self, hsame.symm, if_pos hsame⟩
      · refine .inr ⟨?_, if_neg hsame⟩
        intro apiKey hmem
        rcases List.mem_cons.mp hmem with rfl | hmem
        · exact fun heq => hsame heq.symm
        · exact habsent apiKey hmem

/-! ### Revoking a key -/

theorem entry_revoke (hid : SeparatorFree id.artifactUUID) (hapi : SeparatorFree apiId) :
    (keyStore.revoke apiId name).1.entry id =
      if id = ⟨apiId, name⟩ then none else keyStore.entry id := by
  have hids : id = ⟨apiId, name⟩ ↔
      getCompositeKey id.artifactUUID id.name = getCompositeKey apiId name := by
    rw [getCompositeKey_inj hid hapi, KeyID.ext_iff]
  unfold revoke entry
  cases hlookup : keyStore.apiKeys.lookup (getCompositeKey apiId name) with
  | none =>
    by_cases hsame : id = ⟨apiId, name⟩
    · rw [if_pos hsame, hids.mp hsame, hlookup]
    · rw [if_neg hsame]
  | some found =>
    simp only [lookup_erase_eq, hids]

theorem Coherent.revoke (hcoherent : keyStore.Coherent owner) :
    (keyStore.revoke apiId name).1.Coherent owner := by
  unfold APIKeyStore.revoke
  cases hfound : keyStore.apiKeys.lookup (getCompositeKey apiId name) with
  | none => exact hcoherent
  | some found =>
    obtain ⟨hfoundKey, hfoundIndex⟩ := hcoherent.indexed hfound
    refine ⟨fun {compositeKey stored} hlookup => ?_, fun {apiId' uuid stored} hlookup => ?_⟩
    · obtain ⟨hne, hlookup⟩ := lookup_erase_eq_some_iff.mp hlookup
      obtain ⟨hcomposite, hindex⟩ := hcoherent.indexed hlookup
      refine ⟨hcomposite, ?_⟩
      simp only [removeFromAPIMapping, lookupIn_dropEmpty, lookupIn_eraseIn]
      rw [if_neg, hindex]
      rintro ⟨hartifact, huuid⟩
      rw [hartifact, huuid, hfoundIndex] at hindex
      cases hindex
      exact hne (hcomposite.trans hfoundKey.symm)
    · simp only [removeFromAPIMapping, lookupIn_dropEmpty, lookupIn_eraseIn] at hlookup
      split at hlookup
      · cases hlookup
      · exact hcoherent.placed hlookup

/-! ### Removing the keys of an artifact -/

theorem mem_compositeKeys_iff {compositeKey : String} :
    compositeKey ∈ keyStore.compositeKeys apiId ↔
      ∃ uuid stored, lookupIn keyStore.apiKeysByAPI apiId uuid = some stored ∧
        getCompositeKey stored.artifactUUID stored.name = compositeKey := by
  unfold compositeKeys
  simp only [← lookup_inner, List.mem_map]
  constructor
  · rintro ⟨⟨uuid, stored⟩, hmem, hcomposite⟩
    exact ⟨uuid, stored, AList.mem_lookup_iff.mpr hmem, hcomposite⟩
  · rintro ⟨uuid, stored, hlookup, hcomposite⟩
    exact ⟨⟨uuid, stored⟩, AList.mem_lookup_iff.mp hlookup, hcomposite⟩

theorem entry_removeByAPI (hcoherent : keyStore.Coherent owner)
    (hid : SeparatorFree id.artifactUUID) :
    (keyStore.removeByAPI apiId).entry id =
      if id.artifactUUID = apiId then none else keyStore.entry id := by
  unfold removeByAPI entry
  rw [lookup_eraseAll]
  split
  next hremoved =>
    obtain ⟨uuid, stored, hstored, hcomposite⟩ := mem_compositeKeys_iff.mp hremoved
    obtain ⟨hartifact, _, _, hfree⟩ := hcoherent.placed hstored
    rw [getCompositeKey_inj (hartifact ▸ hfree) hid] at hcomposite
    rw [if_pos (hcomposite.1.symm.trans hartifact)]
  next hkept =>
    split
    next hartifact =>
      cases hentry : keyStore.apiKeys.lookup (getCompositeKey id.artifactUUID id.name) with
      | none => rfl
      | some stored =>
        refine absurd (mem_compositeKeys_iff.mpr ?_) hkept
        have hindex := (hcoherent.indexed hentry).2
        have hstored : stored.id = id := hcoherent.id_of_entry hid hentry
        refine ⟨stored.uuid, stored, ?_, ?_⟩
        · rw [← hartifact, ← hstored]
          exact hindex
        · rw [← hstored]
          rfl
    next => rfl

theorem Coherent.removeByAPI (hcoherent : keyStore.Coherent owner) :
    (keyStore.removeByAPI apiId).Coherent owner := by
  unfold APIKeyStore.removeByAPI
  refine ⟨fun {compositeKey stored} hlookup => ?_, fun {apiId' uuid stored} hlookup => ?_⟩
  · rw [lookup_eraseAll] at hlookup
    split at hlookup
    · cases hlookup
    next hkept =>
      obtain ⟨hcomposite, hindex⟩ := hcoherent.indexed hlookup
      refine ⟨hcomposite, ?_⟩
      rw [lookupIn_erase, if_neg, hindex]
      intro hartifact
      exact hkept (mem_compositeKeys_iff.mpr
        ⟨stored.uuid, stored, hartifact ▸ hindex, hcomposite.symm⟩)
  · rw [lookupIn_erase] at hlookup
    split at hlookup
    · cases hlookup
    · exact hcoherent.placed hlookup

end APIKeyStore

end ApiPlatform.Controller.Storage
