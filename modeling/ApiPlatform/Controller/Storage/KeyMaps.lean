import ApiPlatform.Controller.Storage.ApiKeyStore
import ApiPlatform.Foundation.Runs

/-!
# The two maps of the key store

One map has the keys under their names and the other under their UUIDs.  A key that is
stored takes out the key of its name; it does not look for another name that has its
UUID, and it takes the empty UUID for no key at all.
-/

namespace ApiPlatform.Controller.Storage

open Foundation
open Controller.ApiKeys (APIKey)

namespace APIKeyStore

def clear (_ : APIKeyStore) : APIKeyStore :=
  empty

/-- A call of the store.  The artifact of a key has no separator in its UUID. -/
inductive KeyCall where
  | store (iteration : MapIteration String) (round : Nat) (apiKey : APIKey)
      (hfree : SeparatorFree apiKey.artifactUUID)
  | revoke (apiId apiKeyName : String)
  | removeByAPI (apiId : String)
  | clear

def step (keyStore : APIKeyStore) : KeyCall → APIKeyStore
  | .store iteration round apiKey _ => keyStore.store iteration round apiKey
  | .revoke apiId apiKeyName => (keyStore.revoke apiId apiKeyName).1
  | .removeByAPI apiId => keyStore.removeByAPI apiId
  | .clear => keyStore.clear

section Properties

variable (keyStore : APIKeyStore)

structure Placed : Prop where
  byName : ∀ {compositeKey key}, keyStore.apiKeys.lookup compositeKey = some key →
    compositeKey = getCompositeKey key.artifactUUID key.name ∧ SeparatorFree key.artifactUUID
  byUUID : ∀ {apiId uuid key}, lookupIn keyStore.apiKeysByAPI apiId uuid = some key →
    key.artifactUUID = apiId ∧ key.uuid = uuid ∧ SeparatorFree apiId

def SameKeys : Prop :=
  ∀ key : APIKey,
    keyStore.apiKeys.lookup (getCompositeKey key.artifactUUID key.name) = some key ↔
      lookupIn keyStore.apiKeysByAPI key.artifactUUID key.uuid = some key

def RemovesArtifacts : Prop :=
  ∀ apiId, ∀ key ∈ (keyStore.removeByAPI apiId).getAll, key.artifactUUID ≠ apiId

/-- The revocation of a name leaves no entry for it in either map. -/
def RevokesNames : Prop :=
  ∀ apiId name, SeparatorFree apiId →
    (keyStore.revoke apiId name).1.apiKeys.lookup (getCompositeKey apiId name) = none ∧
      ∀ uuid key, lookupIn (keyStore.revoke apiId name).1.apiKeysByAPI apiId uuid = some key →
        key.name ≠ name

/-- A key that has the UUID has the name too, and a key of the name without a UUID is replaced by
one without a UUID. -/
def KeepsKeys : KeyCall → Prop
  | .store _ _ apiKey _ =>
    (∀ old, lookupIn keyStore.apiKeysByAPI apiKey.artifactUUID apiKey.uuid = some old →
      old.name = apiKey.name) ∧
    (∀ old, lookupIn keyStore.apiKeysByAPI apiKey.artifactUUID "" = some old →
      old.name = apiKey.name → apiKey.uuid = "")
  | _ => True

end Properties

variable {keyStore : APIKeyStore} {iteration : MapIteration String} {round : Nat}
  {key : APIKey} {apiId name : String}

/-! ## Where the keys are -/

theorem empty_placed : empty.Placed where
  byName := by simp [empty]
  byUUID := by simp [empty, lookupIn]

theorem Placed.store (hplaced : keyStore.Placed) (hfree : SeparatorFree key.artifactUUID) :
    (keyStore.store iteration round key).Placed where
  byName := by
    intro compositeKey stored hlookup
    rw [lookup_store] at hlookup
    split at hlookup
    next hsame =>
      cases hlookup
      exact ⟨hsame, hfree⟩
    next => exact hplaced.byName hlookup
  byUUID := by
    intro apiId uuid stored hlookup
    rw [lookupIn_store] at hlookup
    split at hlookup
    next hsame =>
      cases hlookup
      exact ⟨hsame.1.symm, hsame.2.symm, hsame.1 ▸ hfree⟩
    next =>
      split at hlookup
      · cases hlookup
      · exact hplaced.byUUID hlookup

theorem Placed.revoke (hplaced : keyStore.Placed) (apiId name : String) :
    (keyStore.revoke apiId name).1.Placed := by
  unfold APIKeyStore.revoke
  split
  · exact hplaced
  · refine ⟨fun {compositeKey stored} hlookup => ?_, fun {apiId' uuid stored} hlookup => ?_⟩
    · exact hplaced.byName (lookup_erase_eq_some_iff.mp hlookup).2
    · simp only [removeFromAPIMapping, lookupIn_dropEmpty, lookupIn_eraseIn] at hlookup
      split at hlookup
      · cases hlookup
      · exact hplaced.byUUID hlookup

theorem Placed.removeByAPI (hplaced : keyStore.Placed) (apiId : String) :
    (keyStore.removeByAPI apiId).Placed where
  byName := by
    intro compositeKey stored hlookup
    simp only [APIKeyStore.removeByAPI, lookup_eraseAll] at hlookup
    split at hlookup
    · cases hlookup
    · exact hplaced.byName hlookup
  byUUID := by
    intro apiId' uuid stored hlookup
    simp only [APIKeyStore.removeByAPI, lookupIn_erase] at hlookup
    split at hlookup
    · cases hlookup
    · exact hplaced.byUUID hlookup

theorem Placed.step (hplaced : keyStore.Placed) (call : KeyCall) : (keyStore.step call).Placed := by
  cases call with
  | store iteration round apiKey hfree => exact hplaced.store hfree
  | revoke apiId name => exact hplaced.revoke apiId name
  | removeByAPI apiId => exact hplaced.removeByAPI apiId
  | clear => exact empty_placed

/-! ## What the maps have in common -/

theorem SameKeys.eq_of_name (hsame : keyStore.SameKeys) {left right : APIKey}
    (hleft : lookupIn keyStore.apiKeysByAPI apiId left.uuid = some left)
    (hright : lookupIn keyStore.apiKeysByAPI apiId right.uuid = some right)
    (hplaced : keyStore.Placed) (hname : left.name = right.name) : left = right := by
  have hleftArtifact := (hplaced.byUUID hleft).1
  have hrightArtifact := (hplaced.byUUID hright).1
  rw [← hleftArtifact] at hleft
  rw [← hrightArtifact] at hright
  have hfound := (hsame left).mpr hleft
  rw [hname, hleftArtifact, ← hrightArtifact, (hsame right).mpr hright] at hfound
  exact (Option.some.inj hfound).symm

theorem existingID_eq (iteration : MapIteration String) (round : Nat)
    (hsame : keyStore.SameKeys) (hplaced : keyStore.Placed) {old : APIKey}
    (hold : lookupIn keyStore.apiKeysByAPI key.artifactUUID old.uuid = some old)
    (hname : old.name = key.name) : keyStore.existingID iteration round key = old.uuid := by
  have hinner := hold
  rw [← lookup_inner] at hinner
  obtain ⟨found, hfound, hfoundName⟩ :=
    (existingKeyID_cases iteration round _ key.name).resolve_right
      fun hnone => hnone.2 _ _ hinner hname
  rw [lookup_inner] at hfound
  have huuid := (hplaced.byUUID hfound).2.1
  rw [← huuid] at hfound
  have hkeys : found = old :=
    hsame.eq_of_name hfound hold hplaced (hfoundName.trans hname.symm)
  rw [← hkeys, huuid]
  rfl

section

variable (hsame : keyStore.SameKeys)
include hsame

theorem SameKeys.store (hplaced : keyStore.Placed)
    (hfree : SeparatorFree key.artifactUUID)
    (hkeeps : keyStore.KeepsKeys (.store iteration round key hfree)) :
    (keyStore.store iteration round key).SameKeys := by
  obtain ⟨huuidKept, hemptyKept⟩ := hkeeps
  intro stored
  rw [lookup_store, lookupIn_store]
  constructor
  · intro hlookup
    split at hlookup
    next =>
      cases hlookup
      simp
    next hother =>
      have hindex := (hsame stored).mp hlookup
      rw [if_neg, if_neg, hindex]
      · -- the key that is taken out had the name of the new one
        rintro ⟨hartifact, huuid, hne⟩
        obtain ⟨replaced, hreplaced, hname⟩ := exists_lookupIn_existingID (huuid ▸ hne)
        rw [← huuid, ← hartifact, hindex] at hreplaced
        cases hreplaced
        exact hother (by rw [hartifact, hname])
      · rintro ⟨hartifact, huuid⟩
        rw [hartifact, huuid] at hindex
        exact hother (by rw [hartifact, huuidKept _ hindex])
  · intro hlookup
    split at hlookup
    next =>
      cases hlookup
      simp
    next hdifferent =>
      split at hlookup
      · cases hlookup
      next hkept =>
        have hstoredFree := (hplaced.byUUID hlookup).2.2
        rw [if_neg, (hsame stored).mpr hlookup]
        rw [getCompositeKey_inj hstoredFree hfree]
        rintro ⟨hartifact, hname⟩
        rw [hartifact] at hlookup
        have hexisting := existingID_eq iteration round hsame hplaced hlookup hname
        by_cases hempty : stored.uuid = ""
        · rw [hempty] at hlookup
          exact hdifferent ⟨hartifact, hempty.trans (hemptyKept _ hlookup hname).symm⟩
        · exact hkept ⟨hartifact, hexisting.symm, hempty⟩

theorem keepsKeys_of_store (hplaced : keyStore.Placed)
    (hfree : SeparatorFree key.artifactUUID)
    (hafter : (keyStore.store iteration round key).SameKeys) :
    keyStore.KeepsKeys (.store iteration round key hfree) := by
  constructor
  · intro old hold
    obtain ⟨hartifact, huuid, _⟩ := hplaced.byUUID hold
    by_contra hname
    -- the old name stays in the first map, and the second has lost its key
    have hfound := (hsame old).mpr (by rw [hartifact, huuid, hold])
    have hother : getCompositeKey old.artifactUUID old.name ≠
        getCompositeKey key.artifactUUID key.name := by
      rw [ne_eq, getCompositeKey_inj (hartifact ▸ hfree) hfree]
      exact fun hboth => hname hboth.2
    have hkept : (keyStore.store iteration round key).apiKeys.lookup
        (getCompositeKey old.artifactUUID old.name) = some old := by
      rw [lookup_store, if_neg hother, hfound]
    rw [hafter old, hartifact, huuid, lookupIn_store, if_pos ⟨rfl, rfl⟩] at hkept
    cases hkept
    exact hname rfl
  · intro old hold hname
    obtain ⟨hartifact, huuid, _⟩ := hplaced.byUUID hold
    by_contra hne
    -- the second map keeps the key without a UUID, and the first has replaced it
    have hindex : lookupIn (keyStore.store iteration round key).apiKeysByAPI old.artifactUUID
        old.uuid = some old := by
      rw [lookupIn_store, huuid, hartifact, if_neg (fun hboth => hne hboth.2.symm),
        if_neg (fun hboth => hboth.2.2 rfl), hold]
    rw [← hafter old, lookup_store, hartifact, hname, if_pos rfl] at hindex
    cases hindex
    exact hne huuid

theorem SameKeys.revoke (hplaced : keyStore.Placed)
    (apiId name : String) : (keyStore.revoke apiId name).1.SameKeys := by
  unfold APIKeyStore.revoke
  cases hfound : keyStore.apiKeys.lookup (getCompositeKey apiId name) with
  | none => exact hsame
  | some found =>
    have hcomposite := (hplaced.byName hfound).1
    have hindex := (hsame found).mp (hcomposite ▸ hfound)
    intro stored
    simp only [removeFromAPIMapping, lookupIn_dropEmpty, lookupIn_eraseIn]
    by_cases hstored : stored = found
    · subst hstored
      simp [hcomposite]
    · constructor
      · intro hlookup
        obtain ⟨-, hlookup⟩ := lookup_erase_eq_some_iff.mp hlookup
        rw [hsame stored] at hlookup
        rw [if_neg, hlookup]
        rintro ⟨hartifact, huuid⟩
        rw [hartifact, huuid, hindex] at hlookup
        exact hstored (Option.some.inj hlookup).symm
      · intro hlookup
        split at hlookup
        · cases hlookup
        · rw [← hsame stored] at hlookup
          rw [AList.lookup_erase_ne, hlookup]
          intro hcomposites
          rw [hcomposites, hfound] at hlookup
          exact hstored (Option.some.inj hlookup).symm

theorem mem_compositeKeys_of_lookup
    (hlookup : keyStore.apiKeys.lookup (getCompositeKey key.artifactUUID key.name) = some key) :
    getCompositeKey key.artifactUUID key.name ∈ keyStore.compositeKeys key.artifactUUID :=
  mem_compositeKeys_iff.mpr ⟨key.uuid, key, (hsame key).mp hlookup, rfl⟩

theorem SameKeys.removeByAPI (hplaced : keyStore.Placed)
    (apiId : String) : (keyStore.removeByAPI apiId).SameKeys := by
  intro stored
  simp only [APIKeyStore.removeByAPI, lookup_eraseAll, lookupIn_erase]
  constructor
  · intro hlookup
    split at hlookup
    · cases hlookup
    next hkept =>
      rw [if_neg, (hsame stored).mp hlookup]
      rintro rfl
      exact hkept (mem_compositeKeys_of_lookup hsame hlookup)
  · intro hlookup
    split at hlookup
    · cases hlookup
    next hother =>
      rw [if_neg, (hsame stored).mpr hlookup]
      intro hremoved
      obtain ⟨uuid, removed, hindex, hcomposite⟩ := mem_compositeKeys_iff.mp hremoved
      obtain ⟨hartifact, _, hfree⟩ := hplaced.byUUID hindex
      rw [getCompositeKey_inj (hartifact ▸ hfree) (hplaced.byUUID hlookup).2.2] at hcomposite
      exact hother (hcomposite.1.symm.trans hartifact)

theorem step_sameKeys_iff (hplaced : keyStore.Placed)
    (call : KeyCall) : (keyStore.step call).SameKeys ↔ keyStore.KeepsKeys call := by
  cases call with
  | store iteration round apiKey hfree =>
    exact ⟨keepsKeys_of_store hsame hplaced hfree, hsame.store hplaced hfree⟩
  | revoke apiId name => exact iff_of_true (hsame.revoke hplaced apiId name) trivial
  | removeByAPI apiId => exact iff_of_true (hsame.removeByAPI hplaced apiId) trivial
  | clear => exact iff_of_true (by simp [step, clear, SameKeys, empty, lookupIn]) trivial

/-! ## What a removal leaves -/

theorem SameKeys.removesArtifacts (hplaced : keyStore.Placed) :
    keyStore.RemovesArtifacts := by
  intro apiId key hkey hartifact
  obtain ⟨⟨compositeKey, stored⟩, hentry, rfl⟩ := List.mem_map.mp hkey
  have hlookup : (keyStore.removeByAPI apiId).apiKeys.lookup compositeKey = some stored :=
    AList.mem_lookup_iff.mpr hentry
  simp only [APIKeyStore.removeByAPI, lookup_eraseAll] at hlookup
  split at hlookup
  · cases hlookup
  next hkept =>
    obtain ⟨rfl, _⟩ := hplaced.byName hlookup
    subst hartifact
    exact hkept (mem_compositeKeys_of_lookup hsame hlookup)

theorem SameKeys.revokesNames (hplaced : keyStore.Placed) :
    keyStore.RevokesNames := by
  intro apiId name hfree
  have hgone : (keyStore.revoke apiId name).1.apiKeys.lookup (getCompositeKey apiId name) =
      none := by
    unfold APIKeyStore.revoke
    split
    next hnone => exact hnone
    next => exact AList.lookup_erase _ _
  refine ⟨hgone, ?_⟩
  rintro uuid key hkey rfl
  obtain ⟨rfl, rfl, _⟩ := (hplaced.revoke apiId key.name).byUUID hkey
  rw [← hsame.revoke hplaced _ _ key, hgone] at hkey
  cases hkey

end

/-- After every call the two maps have the same keys, so that the removal of an artifact and the
revocation of a name leave nothing behind, if and only if no key is stored over the UUID of
another name or over a key of its name without a UUID. -/
theorem same_keys_iff (calls : List KeyCall) :
    (∀ pre, pre <+: calls →
        (run step empty pre).SameKeys ∧ (run step empty pre).RemovesArtifacts ∧
          (run step empty pre).RevokesNames) ↔
      Conforms step KeepsKeys empty calls := by
  have hvalid : ∀ (keyStore : APIKeyStore) (call : KeyCall),
      keyStore.Placed → (keyStore.step call).Placed :=
    fun _ call hplaced => hplaced.step call
  have hstep : ∀ (keyStore : APIKeyStore) (call : KeyCall), keyStore.Placed →
      keyStore.SameKeys ∧ keyStore.RemovesArtifacts ∧ keyStore.RevokesNames →
        (keyStore.KeepsKeys call ↔ (keyStore.step call).SameKeys ∧
          (keyStore.step call).RemovesArtifacts ∧ (keyStore.step call).RevokesNames) := by
    intro keyStore call hplaced hholds
    rw [← step_sameKeys_iff hholds.1 hplaced]
    have hafter := hplaced.step call
    exact ⟨fun hsame => ⟨hsame, hsame.removesArtifacts hafter, hsame.revokesNames hafter⟩,
      fun hboth => hboth.1⟩
  have hempty : empty.SameKeys := by simp [SameKeys, empty, lookupIn]
  apply Iff.symm
  exact conforms_iff_forall_prefix hvalid hstep empty_placed
    ⟨hempty, hempty.removesArtifacts empty_placed, hempty.revokesNames empty_placed⟩

/-! ## A key under another name -/

def sharedKey (name : String) : APIKey where
  uuid := "k1"
  name := name
  apiKey := "hash"
  maskedAPIKey := "****"
  artifactUUID := "pets"
  status := .active
  createdAt := 1
  createdBy := "system"
  updatedAt := 1
  expiresAt := none
  source := "external"
  externalRefId := none
  issuer := none

/-- A key that comes back under another name keeps its old name in the first map, and the removal
of the artifact does not take it out. -/
theorem renamed_key_survives_removal :
    let renamed := run step empty
      [.store (storedOrder String) 0 (sharedKey "ios") (by decide),
        .store (storedOrder String) 1 (sharedKey "mobile") (by decide)]
    renamed.apiKeys.lookup "pets:ios" = some (sharedKey "ios") ∧
      lookupIn renamed.apiKeysByAPI "pets" "k1" = some (sharedKey "mobile") ∧
      (renamed.removeByAPI "pets").getAll = [sharedKey "ios"] := by
  decide +kernel

end APIKeyStore

end ApiPlatform.Controller.Storage
