import ApiPlatform.Controller.Storage.ConfigIndexes

/-!
# The labels of the configurations

Handles are unique among the configurations of one kind, but the labels are kept under the
bare handle.  So a call for one configuration can replace or remove the labels of another.
-/

namespace ApiPlatform.Controller.Storage

open Foundation

namespace ConfigStore

variable {cs next : ConfigStore} {cfg : StoredConfig}

def getLabelsMap (cs : ConfigStore) (handle : String) : Except StoreError (GoMap String String) :=
  match cs.labelsByAPI.lookup handle with
  | none => .error ⟨some .notFound, Sentinel.notFound.message⟩
  | some labels => .ok labels

def LabelsServed (cs : ConfigStore) : Prop :=
  ∀ id cfg labels, cs.configs.lookup id = some cfg → cfg.getLabels = some labels →
    cs.getLabelsMap cfg.handle = .ok labels

/-- A configuration with labels that is stored under another UUID. -/
def OtherLabelled (cs : ConfigStore) (uuid : String) (other : StoredConfig)
    (labels : GoMap String String) : Prop :=
  ∃ id ≠ uuid, cs.configs.lookup id = some other ∧ other.getLabels = some labels

/-- The call leaves the labels of the other configurations that have the handle. -/
def KeepsLabels (cs : ConfigStore) : ConfigCall → Prop
  | .add _ cfg =>
    cs.handle.lookup (handleKey cfg) = none → cs.nameVersion.lookup cfg.getCompositeKey = none →
      ∀ other labels, cs.OtherLabelled cfg.uuid other labels → other.handle = cfg.handle →
        cfg.getLabels ∈ [none, some labels]
  | .update webSubTopicUpdater cfg =>
    ∀ existing, cs.configs.lookup cfg.uuid = some existing →
      ¬ KeyTaken cs.handle (handleKey existing) (handleKey cfg) cfg.uuid →
      ¬ KeyTaken cs.nameVersion existing.getCompositeKey cfg.getCompositeKey cfg.uuid →
      updateTopics webSubTopicUpdater cfg = none →
      ∀ other labels, cs.OtherLabelled cfg.uuid other labels →
        (other.handle = existing.handle →
          existing.handle = cfg.handle ∧ cfg.getLabels = some labels) ∧
        (other.handle = cfg.handle → existing.handle ≠ cfg.handle →
          cfg.getLabels ∈ [none, some labels])
  | .delete id =>
    ∀ cfg, cs.configs.lookup id = some cfg →
      ∀ other labels, cs.OtherLabelled id other labels → other.handle ≠ cfg.handle

theorem getLabelsMap_eq_ok_iff {handle : String} {labels : GoMap String String} :
    cs.getLabelsMap handle = .ok labels ↔ cs.labelsByAPI.lookup handle = some labels := by
  unfold getLabelsMap
  cases cs.labelsByAPI.lookup handle <;> simp

theorem LabelsServed.lookup {uuid : String} {other : StoredConfig} {labels : GoMap String String}
    (hserved : cs.LabelsServed) (hother : cs.OtherLabelled uuid other labels) :
    cs.labelsByAPI.lookup other.handle = some labels := by
  obtain ⟨id, -, hstored, hlabels⟩ := hother
  exact getLabelsMap_eq_ok_iff.mp (hserved id other labels hstored hlabels)

theorem labelsServed_insert_iff (hconfigs : next.configs = cs.configs.insert cfg.uuid cfg) :
    next.LabelsServed ↔
      (∀ labels, cfg.getLabels = some labels →
        next.labelsByAPI.lookup cfg.handle = some labels) ∧
      ∀ other labels, cs.OtherLabelled cfg.uuid other labels →
        next.labelsByAPI.lookup other.handle = some labels := by
  simp only [LabelsServed, getLabelsMap_eq_ok_iff, hconfigs, lookup_insert_eq_some_iff]
  constructor
  · intro hserved
    exact ⟨fun labels => hserved cfg.uuid cfg labels (.inl ⟨rfl, rfl⟩),
      fun other labels ⟨id, hid, hstored, hlabels⟩ =>
        hserved id other labels (.inr ⟨hid, hstored⟩) hlabels⟩
  · rintro ⟨hown, hothers⟩ id stored labels (⟨-, rfl⟩ | ⟨hid, hstored⟩) hlabels
    · exact hown labels hlabels
    · exact hothers stored labels ⟨id, hid, hstored, hlabels⟩

theorem add_labelsServed_iff (hserved : cs.LabelsServed) (webSubTopicUpdater : TopicUpdater)
    (cfg : StoredConfig) :
    (cs.add webSubTopicUpdater cfg).1.LabelsServed ↔
      cs.KeepsLabels (.add webSubTopicUpdater cfg) := by
  unfold KeepsLabels
  cases hhandle : cs.handle.lookup (handleKey cfg) with
  | some existingID => simp [add, hhandle, hserved]
  | none =>
    cases hname : cs.nameVersion.lookup cfg.getCompositeKey with
    | some existingID => simp [add, hhandle, hname, hserved]
    | none =>
      have hconfigs : (cs.add webSubTopicUpdater cfg).1.configs =
          cs.configs.insert cfg.uuid cfg := by simp [add, hhandle, hname]
      rw [labelsServed_insert_iff hconfigs]
      simp only [add, hhandle, hname, forall_const]
      cases hlabels : cfg.getLabels with
      | none => simpa using fun other labels hother => hserved.lookup hother
      | some new =>
        simp only [Option.some.injEq, AList.lookup_insert, imp_self, implies_true, true_and]
        refine forall₃_congr fun other labels hother => ?_
        simp [lookup_insert_kept_iff (hserved.lookup hother)]

theorem moveLabels_kept_iff {existing other : StoredConfig} {labels : GoMap String String}
    (hkept : cs.labelsByAPI.lookup other.handle = some labels) :
    (cs.moveLabels existing cfg).lookup other.handle = some labels ↔
      (other.handle = existing.handle →
        existing.handle = cfg.handle ∧ cfg.getLabels = some labels) ∧
      (other.handle = cfg.handle → existing.handle ≠ cfg.handle →
        cfg.getLabels ∈ [none, some labels]) := by
  unfold moveLabels
  by_cases hmoved : existing.handle = cfg.handle
  · cases hlabels : cfg.getLabels with
    | none => simp [hmoved, lookup_erase_eq_some_iff, hkept]
    | some new => simp [hmoved, lookup_insert_kept_iff hkept]
  · rw [if_pos hmoved]
    by_cases hold : other.handle = existing.handle
    · rw [hold]
      cases hlabels : cfg.getLabels with
      | none => simp [hmoved]
      | some new => simp [hmoved, AList.lookup_insert_ne hmoved]
    · have herased : (cs.labelsByAPI.erase existing.handle).lookup other.handle = some labels :=
        lookup_erase_eq_some_iff.mpr ⟨hold, hkept⟩
      cases hlabels : cfg.getLabels with
      | none => simp [hold, herased]
      | some new => simp [hold, hmoved, lookup_insert_kept_iff herased]

theorem update_labelsServed_iff (hserved : cs.LabelsServed) (webSubTopicUpdater : TopicUpdater)
    (cfg : StoredConfig) :
    (cs.update webSubTopicUpdater cfg).1.LabelsServed ↔
      cs.KeepsLabels (.update webSubTopicUpdater cfg) := by
  unfold KeepsLabels
  cases hexisting : cs.configs.lookup cfg.uuid with
  | none => simp [update, hexisting, hserved]
  | some existing =>
    simp only [hexisting, Option.some.injEq, forall_eq', ← moveIndex_error_iff]
    cases hhandle : moveIndex cs.handle (handleKey existing) (handleKey cfg) cfg.uuid with
    | error other => simp [update, hexisting, hhandle, hserved]
    | ok handle =>
      cases hname : moveIndex cs.nameVersion existing.getCompositeKey cfg.getCompositeKey
          cfg.uuid with
      | error other =>
        simp only [update, hexisting, hhandle, hname]
        exact iff_of_true hserved (by simp)
      | ok nameVersion =>
        cases htopics : updateTopics webSubTopicUpdater cfg with
        | some err =>
          simp only [update, hexisting, hhandle, hname, htopics]
          exact iff_of_true hserved (by simp)
        | none =>
          have hnext : (cs.update webSubTopicUpdater cfg).1.configs =
                cs.configs.insert cfg.uuid cfg ∧
              (cs.update webSubTopicUpdater cfg).1.labelsByAPI = cs.moveLabels existing cfg := by
            simp [update, hexisting, hhandle, hname, htopics]
          have hown : ∀ labels, cfg.getLabels = some labels →
              (cs.moveLabels existing cfg).lookup cfg.handle = some labels := by
            unfold moveLabels
            split <;> simp_all
          rw [labelsServed_insert_iff hnext.1, hnext.2, and_iff_right hown]
          simp only [reduceCtorEq, exists_const, not_false_eq_true, forall_const]
          exact forall₃_congr fun other labels hother => moveLabels_kept_iff (hserved.lookup hother)

theorem delete_labelsServed_iff (hserved : cs.LabelsServed) (id : String) :
    (cs.delete id).1.LabelsServed ↔ cs.KeepsLabels (.delete id) := by
  unfold KeepsLabels
  cases hstored : cs.configs.lookup id with
  | none => simp [delete, hstored, hserved]
  | some cfg =>
    simp only [LabelsServed, getLabelsMap_eq_ok_iff, delete, hstored, Option.some.injEq, forall_eq',
      lookup_erase_eq_some_iff]
    constructor
    · rintro hafter other labels ⟨id', hid, hother, hlabels⟩
      exact (hafter id' other labels ⟨hid, hother⟩ hlabels).1
    · rintro hothers id' other labels ⟨hid, hother⟩ hlabels
      have hlabelled : cs.OtherLabelled id other labels := ⟨id', hid, hother, hlabels⟩
      exact ⟨hothers other labels hlabelled, hserved.lookup hlabelled⟩

/-- After every call the labels of each stored configuration are found under its handle, if and
only if no call touches the labels of another configuration with the handle. -/
theorem labels_served_iff (calls : List ConfigCall) :
    (∀ pre, pre <+: calls → (run step empty pre).LabelsServed) ↔
      Conforms step KeepsLabels empty calls := by
  have hstep : ∀ (cs : ConfigStore) (call : ConfigCall), True → cs.LabelsServed →
      (cs.KeepsLabels call ↔ (cs.step call).LabelsServed) := by
    intro cs call _ hserved
    cases call with
    | add webSubTopicUpdater cfg => exact (add_labelsServed_iff hserved webSubTopicUpdater cfg).symm
    | update webSubTopicUpdater cfg =>
      exact (update_labelsServed_iff hserved webSubTopicUpdater cfg).symm
    | delete id => exact (delete_labelsServed_iff hserved id).symm
  have hempty : empty.LabelsServed := by
    intro id cfg labels hstored
    simp [empty] at hstored
  apply Iff.symm
  exact conforms_iff_forall_prefix (fun _ _ _ => trivial) hstep trivial hempty

/-! ## Labels that disappear -/

def petsAPI : StoredConfig :=
  { pets "u1" "pets" "Pets" with
    kind := "RestApi"
    configuration := .restAPI
      { labels := some (AList.singleton "team" "zoo"), annotations := none
        spec := ⟨"Pets", "v1", "/pets", none, ⟨none, none, none⟩, none, [], [], none, []⟩ } }

/-- Deleting the WebSub API of the handle removes the labels of the REST API. -/
theorem labels_removed :
    let calls := [.add quiet petsAPI, .add quiet (pets "u2" "pets" "Pets"), .delete "u2"]
    (run step empty calls).configs.lookup "u1" = some petsAPI ∧
      petsAPI.getLabels.isSome = true ∧
      (run step empty calls).labelsByAPI.lookup petsAPI.handle = none := by
  decide +kernel

end ConfigStore

end ApiPlatform.Controller.Storage
