import ApiPlatform.Controller.Storage.ConfigStore
import ApiPlatform.Foundation.Indexes
import ApiPlatform.Foundation.Runs

/-!
# The indexes of the configurations

The store finds a configuration by its handle and by its name and version.  Each
operation writes the two indexes by hand: an addition does not look at the UUID, and an
update that is refused keeps the entries that it has already moved.
-/

namespace ApiPlatform.Controller.Storage

open Foundation

namespace ConfigStore

/-! ## Moving an entry -/

/-- The new key is not the old one, and another configuration has it. -/
def KeyTaken (index : GoMap String String) (oldKey newKey uuid : String) : Prop :=
  oldKey ≠ newKey ∧ index.lookup newKey ∉ [none, some uuid]

section MoveIndex

variable {index moved : GoMap String String} {oldKey newKey uuid : String}

theorem moveIndex_error_iff :
    (∃ other, moveIndex index oldKey newKey uuid = .error other) ↔
      KeyTaken index oldKey newKey uuid := by
  unfold moveIndex KeyTaken
  by_cases hkeys : oldKey = newKey
  · simp [hkeys]
  · rw [if_neg hkeys]
    cases hlookup : index.lookup newKey with
    | none => simp
    | some other =>
      by_cases hother : other = uuid
      · simp [hother]
      · simp [hother, hkeys]

theorem moveIndex_of_eq (hkeys : oldKey = newKey)
    (hmove : moveIndex index oldKey newKey uuid = .ok moved) : moved = index := by
  rw [moveIndex, if_pos hkeys] at hmove
  exact (Except.ok.inj hmove).symm

theorem moveIndex_of_ne (hkeys : oldKey ≠ newKey)
    (hmove : moveIndex index oldKey newKey uuid = .ok moved) :
    index.lookup newKey ∈ [none, some uuid] ∧ moved = (index.erase oldKey).insert newKey uuid := by
  rw [moveIndex, if_neg hkeys] at hmove
  cases hlookup : index.lookup newKey with
  | none =>
    rw [hlookup] at hmove
    exact ⟨by simp, (Except.ok.inj hmove).symm⟩
  | some other =>
    simp only [hlookup] at hmove
    split at hmove
    · cases hmove
    next hown =>
      rw [not_not] at hown
      exact ⟨by simp [hown], (Except.ok.inj hmove).symm⟩

variable {rows : GoMap String StoredConfig} {keyOf : StoredConfig → String}
  {existing cfg : StoredConfig}

theorem indexes_of_moveIndex (hindexes : Indexes rows index keyOf)
    (hexisting : rows.lookup cfg.uuid = some existing)
    (hmove : moveIndex index (keyOf existing) (keyOf cfg) cfg.uuid = .ok moved) :
    Indexes (rows.insert cfg.uuid cfg) moved keyOf := by
  by_cases hkeys : keyOf existing = keyOf cfg
  · rw [moveIndex_of_eq hkeys hmove]
    exact hindexes.replace hexisting hkeys
  · obtain ⟨hallowed, rfl⟩ := moveIndex_of_ne hkeys hmove
    exact hindexes.move hexisting hkeys (hindexes.lookup_eq_none hexisting hkeys hallowed)

theorem indexes_moveIndex_iff (hindexes : Indexes rows index keyOf)
    (hexisting : rows.lookup cfg.uuid = some existing)
    (hmove : moveIndex index (keyOf existing) (keyOf cfg) cfg.uuid = .ok moved) :
    Indexes rows moved keyOf ↔ keyOf existing = keyOf cfg := by
  by_cases hkeys : keyOf existing = keyOf cfg
  · rw [moveIndex_of_eq hkeys hmove]
    simp [hkeys, hindexes]
  · obtain ⟨_, rfl⟩ := moveIndex_of_ne hkeys hmove
    simp [hkeys, Indexes.not_move hexisting hkeys]

end MoveIndex

/-! ## The invariant -/

/-- Both indexes are the inverse of the keys of the stored configurations. -/
structure Indexed (cs : ConfigStore) : Prop where
  handle : Indexes cs.configs cs.handle handleKey
  nameVersion : Indexes cs.configs cs.nameVersion StoredConfig.getCompositeKey

def UnderUUID (cs : ConfigStore) : Prop :=
  ∀ id cfg, cs.configs.lookup id = some cfg → cfg.uuid = id

def Unshared (cs : ConfigStore) : Prop :=
  ∀ id id' cfg cfg', cs.configs.lookup id = some cfg → cs.configs.lookup id' = some cfg' →
    handleKey cfg = handleKey cfg' ∨ cfg.getCompositeKey = cfg'.getCompositeKey → id = id'

/-- A call of the store, with the answer of the hook that registers topics. -/
inductive ConfigCall where
  | add (webSubTopicUpdater : TopicUpdater) (cfg : StoredConfig)
  | update (webSubTopicUpdater : TopicUpdater) (cfg : StoredConfig)
  | delete (id : String)

def step (cs : ConfigStore) : ConfigCall → ConfigStore
  | .add webSubTopicUpdater cfg => (cs.add webSubTopicUpdater cfg).1
  | .update webSubTopicUpdater cfg => (cs.update webSubTopicUpdater cfg).1
  | .delete id => (cs.delete id).1

/-- An addition of a UUID that is not stored, and an update that no check refuses once an entry
has moved. -/
def KeepsIndexes (cs : ConfigStore) : ConfigCall → Prop
  | .add _ cfg =>
    cs.configs.lookup cfg.uuid = none ∨ handleKey cfg ∈ cs.handle ∨
      cfg.getCompositeKey ∈ cs.nameVersion
  | .update webSubTopicUpdater cfg =>
    ∀ existing, cs.configs.lookup cfg.uuid = some existing →
      ¬ KeyTaken cs.handle (handleKey existing) (handleKey cfg) cfg.uuid →
      (KeyTaken cs.nameVersion existing.getCompositeKey cfg.getCompositeKey cfg.uuid →
        handleKey existing = handleKey cfg) ∧
      (¬ KeyTaken cs.nameVersion existing.getCompositeKey cfg.getCompositeKey cfg.uuid →
        updateTopics webSubTopicUpdater cfg ≠ none →
        handleKey existing = handleKey cfg ∧ existing.getCompositeKey = cfg.getCompositeKey)
  | .delete _ => True

/-! ## The operations -/

section Steps

variable {cs : ConfigStore}

theorem Indexed.unshared (hindexed : cs.Indexed) : cs.Unshared := by
  rintro id id' cfg cfg' hcfg hcfg' (hhandle | hcomposite)
  · exact hindexed.handle.id_unique hcfg hcfg' hhandle
  · exact hindexed.nameVersion.id_unique hcfg hcfg' hcomposite

theorem UnderUUID.of_effect {next : ConfigStore} {cfg : StoredConfig} (hunder : cs.UnderUUID)
    (heffect : next.configs = cs.configs ∨ next.configs = cs.configs.insert cfg.uuid cfg) :
    next.UnderUUID := by
  intro id stored hstored
  rcases heffect with hsame | hinserted
  · exact hunder id stored (hsame ▸ hstored)
  · rcases lookup_insert_eq_some_iff.mp (hinserted ▸ hstored) with ⟨rfl, rfl⟩ | ⟨-, hother⟩
    · rfl
    · exact hunder id stored hother

theorem UnderUUID.step (hunder : cs.UnderUUID) (call : ConfigCall) : (cs.step call).UnderUUID := by
  cases call with
  | add webSubTopicUpdater cfg => exact hunder.of_effect (add_effect webSubTopicUpdater cs cfg).2
  | update webSubTopicUpdater cfg =>
    exact hunder.of_effect (update_effect webSubTopicUpdater cs cfg).2
  | delete id =>
    intro other cfg hcfg
    simp only [ConfigStore.step, lookup_delete] at hcfg
    split at hcfg
    · cases hcfg
    · exact hunder other cfg hcfg

theorem add_indexed_iff (webSubTopicUpdater : TopicUpdater) (cfg : StoredConfig)
    (hindexed : cs.Indexed) :
    (cs.add webSubTopicUpdater cfg).1.Indexed ↔
      cs.KeepsIndexes (.add webSubTopicUpdater cfg) := by
  simp only [KeepsIndexes, ← AList.lookup_isSome]
  cases hhandle : cs.handle.lookup (handleKey cfg) with
  | some existingID => simp [add, hhandle, hindexed]
  | none =>
    cases hname : cs.nameVersion.lookup cfg.getCompositeKey with
    | some existingID => simp [add, hhandle, hname, hindexed]
    | none =>
      simp only [add, hhandle, hname, Option.isSome_none, Bool.false_eq_true, or_false]
      cases hstored : cs.configs.lookup cfg.uuid with
      | none =>
        refine iff_of_true ⟨?_, ?_⟩ rfl
        · exact hindexed.handle.insert hstored hhandle
        · exact hindexed.nameVersion.insert hstored hname
      | some old =>
        refine iff_of_false ?_ (by simp)
        exact fun hafter => hindexed.handle.not_insert hstored hhandle hafter.handle

theorem update_indexed_iff (webSubTopicUpdater : TopicUpdater) (cfg : StoredConfig)
    (hindexed : cs.Indexed) :
    (cs.update webSubTopicUpdater cfg).1.Indexed ↔
      cs.KeepsIndexes (.update webSubTopicUpdater cfg) := by
  unfold KeepsIndexes update
  cases hexisting : cs.configs.lookup cfg.uuid with
  | none => simp [hexisting, hindexed]
  | some existing =>
    simp only [hexisting, Option.some.injEq, forall_eq', ← moveIndex_error_iff]
    cases hhandle : moveIndex cs.handle (handleKey existing) (handleKey cfg) cfg.uuid with
    | error other => simp [hindexed]
    | ok handle =>
      have hhandleIff := indexes_moveIndex_iff hindexed.handle hexisting hhandle
      cases hname : moveIndex cs.nameVersion existing.getCompositeKey cfg.getCompositeKey
          cfg.uuid with
      | error other =>
        have hiff : Indexed { cs with handle := handle } ↔
            handleKey existing = handleKey cfg :=
          ⟨fun hafter => hhandleIff.mp hafter.handle,
            fun hkeys => ⟨hhandleIff.mpr hkeys, hindexed.nameVersion⟩⟩
        simp [hiff]
      | ok nameVersion =>
        have hnameIff := indexes_moveIndex_iff hindexed.nameVersion hexisting hname
        cases htopics : updateTopics webSubTopicUpdater cfg with
        | some err =>
          have hiff : Indexed { cs with handle := handle, nameVersion := nameVersion } ↔
              handleKey existing = handleKey cfg ∧
                existing.getCompositeKey = cfg.getCompositeKey :=
            ⟨fun hafter => ⟨hhandleIff.mp hafter.handle, hnameIff.mp hafter.nameVersion⟩,
              fun ⟨hkeys, hnames⟩ => ⟨hhandleIff.mpr hkeys, hnameIff.mpr hnames⟩⟩
          simp [hiff]
        | none =>
          refine iff_of_true ⟨?_, ?_⟩ (by simp)
          · exact indexes_of_moveIndex hindexed.handle hexisting hhandle
          · exact indexes_of_moveIndex hindexed.nameVersion hexisting hname

theorem Indexed.delete (hindexed : cs.Indexed) (id : String) : (cs.delete id).1.Indexed := by
  unfold ConfigStore.delete
  cases hstored : cs.configs.lookup id with
  | none => exact hindexed
  | some cfg => exact ⟨hindexed.handle.erase hstored, hindexed.nameVersion.erase hstored⟩

theorem step_indexed_iff (hindexed : cs.Indexed) (call : ConfigCall) :
    (cs.step call).Indexed ↔ cs.KeepsIndexes call := by
  cases call with
  | add webSubTopicUpdater cfg => exact add_indexed_iff webSubTopicUpdater cfg hindexed
  | update webSubTopicUpdater cfg => exact update_indexed_iff webSubTopicUpdater cfg hindexed
  | delete id => exact iff_of_true (hindexed.delete id) trivial

end Steps

theorem empty_indexed : empty.Indexed :=
  ⟨Indexes.empty, Indexes.empty⟩

theorem empty_underUUID : empty.UnderUUID := by
  intro id cfg hcfg
  simp [empty] at hcfg

/-- Both indexes are in bijection with the stored configurations after every call if and only if
no addition has a stored UUID and no update is refused after it has moved an entry. -/
theorem indexes_exact_iff (calls : List ConfigCall) :
    (∀ pre, pre <+: calls →
        (run step empty pre).Indexed ∧ (run step empty pre).UnderUUID ∧
          (run step empty pre).Unshared) ↔
      Conforms step KeepsIndexes empty calls := by
  have hvalid : ∀ (cs : ConfigStore) (call : ConfigCall), cs.UnderUUID → (cs.step call).UnderUUID :=
    fun _ call hunder => hunder.step call
  have hstep : ∀ (cs : ConfigStore) (call : ConfigCall), cs.UnderUUID →
      cs.Indexed ∧ cs.UnderUUID ∧ cs.Unshared →
        (cs.KeepsIndexes call ↔
          (cs.step call).Indexed ∧ (cs.step call).UnderUUID ∧ (cs.step call).Unshared) := by
    intro cs call hunder hholds
    rw [← step_indexed_iff hholds.1]
    exact ⟨fun hindexed => ⟨hindexed, hunder.step call, hindexed.unshared⟩, fun hafter => hafter.1⟩
  apply Iff.symm
  exact conforms_iff_forall_prefix hvalid hstep empty_underUUID
    ⟨empty_indexed, empty_underUUID, empty_indexed.unshared⟩

/-! ## Refused calls -/

structure SameTables (cs next : ConfigStore) : Prop where
  configs : ∀ id, next.configs.lookup id = cs.configs.lookup id
  handle : ∀ key, next.handle.lookup key = cs.handle.lookup key
  nameVersion : ∀ key, next.nameVersion.lookup key = cs.nameVersion.lookup key
  labelsByAPI : ∀ handle, next.labelsByAPI.lookup handle = cs.labelsByAPI.lookup handle

theorem SameTables.refl (cs : ConfigStore) : cs.SameTables cs :=
  ⟨fun _ => rfl, fun _ => rfl, fun _ => rfl, fun _ => rfl⟩

def Stays (index : GoMap String String) (oldKey newKey uuid : String) : Prop :=
  oldKey = newKey ∨ index.lookup oldKey = none ∧ index.lookup newKey = some uuid

/-- A call that is refused is refused before anything is stored or moved. -/
def RefusesFirst (cs : ConfigStore) : ConfigCall → Prop
  | .add webSubTopicUpdater cfg =>
    updateTopics webSubTopicUpdater cfg = none ∨ handleKey cfg ∈ cs.handle ∨
      cfg.getCompositeKey ∈ cs.nameVersion
  | .update webSubTopicUpdater cfg =>
    ∀ existing, cs.configs.lookup cfg.uuid = some existing →
      ¬ KeyTaken cs.handle (handleKey existing) (handleKey cfg) cfg.uuid →
      (KeyTaken cs.nameVersion existing.getCompositeKey cfg.getCompositeKey cfg.uuid →
        Stays cs.handle (handleKey existing) (handleKey cfg) cfg.uuid) ∧
      (¬ KeyTaken cs.nameVersion existing.getCompositeKey cfg.getCompositeKey cfg.uuid →
        updateTopics webSubTopicUpdater cfg ≠ none →
        Stays cs.handle (handleKey existing) (handleKey cfg) cfg.uuid ∧
          Stays cs.nameVersion existing.getCompositeKey cfg.getCompositeKey cfg.uuid)
  | .delete _ => True

theorem lookup_moveIndex_iff {index moved : GoMap String String} {oldKey newKey uuid : String}
    (hmove : moveIndex index oldKey newKey uuid = .ok moved) :
    (∀ key, moved.lookup key = index.lookup key) ↔ Stays index oldKey newKey uuid := by
  by_cases hkeys : oldKey = newKey
  · simp [moveIndex_of_eq hkeys hmove, Stays, hkeys]
  obtain ⟨-, rfl⟩ := moveIndex_of_ne hkeys hmove
  rw [Stays, or_iff_right hkeys]
  constructor
  · intro hsame
    have hold := hsame oldKey
    have hnew := hsame newKey
    rw [AList.lookup_insert_ne hkeys, AList.lookup_erase] at hold
    exact ⟨hold.symm, hnew.symm.trans (AList.lookup_insert _)⟩
  · rintro ⟨hold, hnew⟩ key
    rw [lookup_insert_eq, lookup_erase_eq]
    split_ifs with hsame hsame
    · rw [hsame, hnew]
    · rw [hsame, hold]
    · rfl

theorem add_unchanged_iff (webSubTopicUpdater : TopicUpdater) (cs : ConfigStore)
    (cfg : StoredConfig) :
    ((cs.add webSubTopicUpdater cfg).2 ≠ none →
        cs.SameTables (cs.add webSubTopicUpdater cfg).1) ↔
      cs.RefusesFirst (.add webSubTopicUpdater cfg) := by
  simp only [RefusesFirst, ← AList.lookup_isSome]
  cases hhandle : cs.handle.lookup (handleKey cfg) with
  | some existingID => simp [add, hhandle, SameTables.refl]
  | none =>
    cases hname : cs.nameVersion.lookup cfg.getCompositeKey with
    | some existingID => simp [add, hhandle, hname, SameTables.refl]
    | none =>
      have hstored : ¬ cs.SameTables (cs.add webSubTopicUpdater cfg).1 := by
        intro hsame
        have hentry := hsame.handle (handleKey cfg)
        simp [add, hhandle, hname] at hentry
      have hanswer : (cs.add webSubTopicUpdater cfg).2 = updateTopics webSubTopicUpdater cfg := by
        simp [add, hhandle, hname]
      simp [hstored, hanswer]

theorem update_unchanged_iff (webSubTopicUpdater : TopicUpdater) (cs : ConfigStore)
    (cfg : StoredConfig) :
    ((cs.update webSubTopicUpdater cfg).2 ≠ none →
        cs.SameTables (cs.update webSubTopicUpdater cfg).1) ↔
      cs.RefusesFirst (.update webSubTopicUpdater cfg) := by
  unfold RefusesFirst update
  cases hexisting : cs.configs.lookup cfg.uuid with
  | none => simp [hexisting, SameTables.refl]
  | some existing =>
    simp only [hexisting, Option.some.injEq, forall_eq', ← moveIndex_error_iff]
    cases hhandle : moveIndex cs.handle (handleKey existing) (handleKey cfg) cfg.uuid with
    | error other => simp [SameTables.refl]
    | ok handle =>
      have hhandleIff := lookup_moveIndex_iff hhandle
      cases hname : moveIndex cs.nameVersion existing.getCompositeKey cfg.getCompositeKey
          cfg.uuid with
      | error other =>
        have hiff : cs.SameTables { cs with handle := handle } ↔ _ :=
          Iff.trans ⟨fun hsame => hsame.handle, fun hsame =>
            ⟨fun _ => rfl, hsame, fun _ => rfl, fun _ => rfl⟩⟩ hhandleIff
        simp [hiff]
      | ok nameVersion =>
        cases htopics : updateTopics webSubTopicUpdater cfg with
        | none => simp
        | some err =>
          have hiff : cs.SameTables { cs with handle := handle, nameVersion := nameVersion } ↔ _ :=
            Iff.trans ⟨fun hsame => ⟨hsame.handle, hsame.nameVersion⟩, fun hsame =>
              ⟨fun _ => rfl, hsame.1, hsame.2, fun _ => rfl⟩⟩
              (and_congr hhandleIff (lookup_moveIndex_iff hname))
          simp [hiff]

/-- A refused addition or update leaves the four tables as they were if and only if it is refused
before it has stored or moved anything. -/
theorem refused_call_unchanged_iff (webSubTopicUpdater : TopicUpdater) (cs : ConfigStore)
    (cfg : StoredConfig) :
    (((cs.add webSubTopicUpdater cfg).2 ≠ none →
        cs.SameTables (cs.add webSubTopicUpdater cfg).1) ↔
      cs.RefusesFirst (.add webSubTopicUpdater cfg)) ∧
    (((cs.update webSubTopicUpdater cfg).2 ≠ none →
        cs.SameTables (cs.update webSubTopicUpdater cfg).1) ↔
      cs.RefusesFirst (.update webSubTopicUpdater cfg)) :=
  ⟨add_unchanged_iff webSubTopicUpdater cs cfg, update_unchanged_iff webSubTopicUpdater cs cfg⟩

/-! ## Calls that break the indexes -/

def pets (uuid handle displayName : String) : StoredConfig where
  uuid := uuid
  kind := "WebSubApi"
  handle := handle
  displayName := displayName
  version := "v1"
  configuration := .webSubAPI ""
  sourceConfiguration := .webSubAPI ""
  desiredState := .deployed
  sensitiveValues := []

def quiet : TopicUpdater := fun _ => none

/-- An update is refused for its name after the handle has moved, and then the stored
configuration is no longer found under its handle; a second addition of a UUID leaves the entries
of the first behind. -/
theorem refused_update_moves_handle :
    let refused := run step empty
      [.add quiet (pets "u1" "cats" "Cats"), .add quiet (pets "u2" "dogs" "Dogs"),
        .update quiet (pets "u1" "lions" "Dogs")]
    let added := run step empty
      [.add quiet (pets "u1" "cats" "Cats"), .add quiet (pets "u1" "dogs" "Dogs")]
    refused.configs.lookup "u1" = some (pets "u1" "cats" "Cats") ∧
      refused.handle.lookup "WebSubApi:cats" = none ∧
      refused.handle.lookup "WebSubApi:lions" = some "u1" ∧
      added.configs.lookup "u1" = some (pets "u1" "dogs" "Dogs") ∧
      added.handle.lookup "WebSubApi:cats" = some "u1" := by
  decide +kernel

def hubDown : TopicUpdater := fun _ => some ⟨none, "hub is down"⟩

/-- An addition whose topics cannot be registered stays in the store, and an update that is
refused for its name keeps the moved handle. -/
theorem refused_calls_change_tables :
    let cats := pets "u1" "cats" "Cats"
    let both := run step empty [.add quiet cats, .add quiet (pets "u2" "dogs" "Dogs")]
    (empty.add hubDown cats).2 ≠ none ∧ (empty.add hubDown cats).1.configs.lookup "u1" = some cats ∧
      (both.update quiet (pets "u1" "lions" "Dogs")).2 ≠ none ∧
      both.handle.lookup "WebSubApi:cats" = some "u1" ∧
      (both.update quiet (pets "u1" "lions" "Dogs")).1.handle.lookup "WebSubApi:cats" = none := by
  decide +kernel

end ConfigStore

end ApiPlatform.Controller.Storage
