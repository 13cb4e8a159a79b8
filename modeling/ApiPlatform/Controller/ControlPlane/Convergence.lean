import ApiPlatform.Controller.ControlPlane.SyncPhases

/-!
# Convergence of the deployment sync

What the database holds after a sync in which nothing failed, and when that is
what the control plane lists.
-/

namespace ApiPlatform.Controller.ControlPlane

open Foundation Client
open Controller.Storage

variable {dep : ControlPlaneDeployment}

/-! ## What a listed deployment needs -/

/-- The artifact is new, in another deployment, or has the listed state already. -/
def NeedsContent (db : ArtifactDB) (dep : ControlPlaneDeployment) : Prop :=
  match localRow db dep.artifactID with
  | none => parseDesiredState dep.state = some .deployed
  | some row => row.deploymentID ≠ dep.deploymentID ∨
      parseDesiredState dep.state = some row.desiredState

instance (db : ArtifactDB) (dep : ControlPlaneDeployment) : Decidable (NeedsContent db dep) :=
  match hrow : localRow db dep.artifactID with
  | none => decidable_of_iff (parseDesiredState dep.state = some .deployed)
      (by simp [NeedsContent, hrow])
  | some row => decidable_of_iff (row.deploymentID ≠ dep.deploymentID ∨
      parseDesiredState dep.state = some row.desiredState) (by simp [NeedsContent, hrow])

theorem isNewer_localRow {db : ArtifactDB} {row : Artifact}
    (hnewer : IsNewer dep (db.rows.lookup dep.artifactID))
    (hrow : localRow db dep.artifactID = some row) : row.deployedAt ≠ some dep.deployedAt := by
  intro hsame
  have hlookup := (localRow_eq_some.mp hrow).1
  exact absurd (hnewer row hlookup dep.deployedAt hsame) (lt_irrefl _)

theorem actionFor_eq_fetch_iff {db : ArtifactDB}
    (hnewer : IsNewer dep (db.rows.lookup dep.artifactID)) :
    actionFor db dep = .fetch ↔ NeedsContent db dep := by
  unfold actionFor NeedsContent syncAction
  cases hrow : localRow db dep.artifactID with
  | none => simp
  | some row =>
    have hat := isNewer_localRow hnewer hrow
    by_cases hid : row.deploymentID = dep.deploymentID
    · cases hstate : parseDesiredState dep.state with
      | none => simp [hid]
      | some remoteState =>
        by_cases hsame : remoteState = row.desiredState
        · simp [hid, hsame, hat]
        · simp [hid, hsame]
    · simp [hid]

theorem actionFor_eq_updateStatus_iff {db : ArtifactDB} :
    actionFor db dep = .updateStatus ↔
      ∃ row state, localRow db dep.artifactID = some row ∧
        row.deploymentID = dep.deploymentID ∧ parseDesiredState dep.state = some state ∧
          state ≠ row.desiredState := by
  unfold actionFor syncAction
  cases hrow : localRow db dep.artifactID with
  | none => by_cases hstate : parseDesiredState dep.state = some .deployed <;> simp [hstate]
  | some row =>
    by_cases hid : row.deploymentID = dep.deploymentID
    · cases hstate : parseDesiredState dep.state with
      | none => simp [hid]
      | some remoteState =>
        by_cases hsame : remoteState = row.desiredState
        · by_cases hat : row.deployedAt = some dep.deployedAt <;> simp [hid, hsame, hat]
        · simp [hid, hsame]
    · simp [hid]

theorem actionFor_of_matches {db : ArtifactDB} {row : Artifact} {state : DesiredState}
    (hlookup : db.rows.lookup dep.artifactID = some row) (hmatches : Matches dep state row)
    (hstate : ∀ remoteState ∈ parseDesiredState dep.state, remoteState = state) :
    actionFor db dep = .skip := by
  unfold actionFor syncAction
  rw [localRow_eq_some.mpr ⟨hlookup, hmatches.origin⟩]
  dsimp only
  rw [if_neg (not_not.mpr hmatches.deploymentID)]
  cases hparsed : parseDesiredState dep.state with
  | none => rfl
  | some remoteState =>
    rw [hstate remoteState hparsed, hmatches.desiredState, hmatches.deployedAt]
    simp

theorem localRow_congr {before after : ArtifactDB} {uuid : String}
    (hlookup : after.rows.lookup uuid = before.rows.lookup uuid) :
    localRow after uuid = localRow before uuid := by
  rw [localRow, localRow, hlookup]

/-! ## The whole sync -/

/-- The control plane still knows the artifact, so the client keeps it. -/
def Client.keeps (c : Client) (uuid : String) : Bool :=
  match c.isOnPrem, c.artifactExists with
  | false, .ok existing => existing uuid
  | _, _ => false

def Client.removes (c : Client) (db : ArtifactDB) (uuid : String) : Bool :=
  (localRow db uuid).any fun row => c.deletes row.kind && !c.keeps uuid

section Sync

variable {c : Client} {order : MapIteration String} {round : Nat} {db : ArtifactDB}
  {remote : List ControlPlaneDeployment}

theorem actualOrphans_sublist (state : SyncState) (ids : List String) :
    (c.actualOrphans state ids).2.Sublist ids := by
  unfold actualOrphans
  split
  · exact List.Sublist.refl ids
  split
  · exact List.nil_sublist ids
  · exact List.filter_sublist

theorem actualOrphans_quiet {state : SyncState} {ids : List String}
    (hquiet : (c.actualOrphans state ids).1.log = []) :
    (c.actualOrphans state ids).1 = state ∧
      ∀ uuid, uuid ∈ (c.actualOrphans state ids).2 ↔ uuid ∈ ids ∧ c.keeps uuid = false := by
  unfold actualOrphans at hquiet ⊢
  by_cases hall : ids = [] ∨ c.isOnPrem = true
  · rw [if_pos hall]
    rcases hall with rfl | hprem
    · simp
    · simp [keeps, hprem]
  rw [if_neg hall] at hquiet ⊢
  cases hexists : c.artifactExists with
  | error message =>
    rw [hexists] at hquiet
    exact absurd hquiet (log_ne_nil _)
  | ok existing =>
    have hprem : c.isOnPrem = false := by
      simpa using fun h => hall (.inr h)
    simp [keeps, hprem, hexists]

theorem nodup_toDelete : (diffOf order round db remote).toDelete.Nodup := by
  have hkeys : (order.order round (localMap db).keys).Nodup :=
    (order.perm round _).nodup_iff.mpr (localMap db).keys_nodup
  exact hkeys.filter _

theorem sync_phases (hquiet : (c.syncDeployments (order.order round) db remote).log = []) :
    ∃ deleted fetched : SyncState,
      (∀ uuid, deleted.db.rows.lookup uuid =
        if uuid ∉ remote.map (·.artifactID) ∧ c.removes db uuid then none
        else db.rows.lookup uuid) ∧
      Steps Fetches deleted
        (grouped fetchOrder (·.kind) (diffOf order round db remote).toFetch) fetched ∧
      Steps UpdatesStatus fetched (diffOf order round db remote).toUpdateStatus
        (c.syncDeployments (order.order round) db remote) := by
  change ((diffOf order round db remote).toUpdateStatus.foldl processSyncStatusUpdate
    (c.processSyncFetches (c.processSyncDeletions
      (c.actualOrphans ⟨db, []⟩ (diffOf order round db remote).toDelete).1
      (c.actualOrphans ⟨db, []⟩ (diffOf order round db remote).toDelete).2)
      (diffOf order round db remote).toFetch)).log = [] at hquiet
  obtain ⟨hfetched, hupdates⟩ := steps_of_foldl (fun state : SyncState => state.log = [])
    (fun state dep h => (updatesStatus_of_quiet h).1)
    (fun state dep h => (updatesStatus_of_quiet h).2) _ hquiet
  obtain ⟨hdeleted, hfetches⟩ := steps_of_fetches hfetched
  obtain ⟨horphansQuiet, hlookup⟩ := lookup_processSyncDeletions
    (nodup_toDelete.sublist (actualOrphans_sublist _ _)) hdeleted
  obtain ⟨horphans, hmem⟩ := actualOrphans_quiet horphansQuiet
  refine ⟨_, _, fun uuid => ?_, hfetches, hupdates⟩
  rw [hlookup uuid, horphans]
  refine if_congr ?_ rfl rfl
  rw [hmem, mem_toDelete]
  cases hrow : localRow db uuid with
  | none => simp [removes, hrow]
  | some row =>
    simp only [removes, hrow, (localRow_eq_some.mp hrow).1, Option.any_some,
      Option.some.injEq, exists_eq', true_and, Bool.and_eq_true, Bool.not_eq_true']
    tauto

/-- What the database holds after the sync, artifact by artifact. -/
structure SyncEffect (c : Client) (remote : List ControlPlaneDeployment)
    (before after : ArtifactDB) : Prop where
  fetched : ∀ dep ∈ remote, actionFor before dep = .fetch → dep.kind ∈ fetchOrder →
    ∃ row, after.rows.lookup dep.artifactID = some row ∧ Matches dep .deployed row
  updated : ∀ dep ∈ remote, actionFor before dep = .updateStatus →
    ∃ state row, parseDesiredState dep.state = some state ∧
      after.rows.lookup dep.artifactID = some row ∧ Matches dep state row
  untouched : ∀ dep ∈ remote, actionFor before dep ≠ .updateStatus →
    (actionFor before dep = .fetch → dep.kind ∉ fetchOrder) →
      after.rows.lookup dep.artifactID = before.rows.lookup dep.artifactID
  unlisted : ∀ uuid ∉ remote.map (·.artifactID), after.rows.lookup uuid =
    if c.removes before uuid then none else before.rows.lookup uuid

variable (hids : (remote.map (·.artifactID)).Nodup)
  (hquiet : (c.syncDeployments (order.order round) db remote).log = [])
include hids hquiet

theorem syncEffect (hnewer : ∀ dep ∈ remote, IsNewer dep (db.rows.lookup dep.artifactID))
    (hnamed : ∀ dep ∈ remote, actionFor db dep = .fetch → dep.kind ∈ fetchOrder →
      dep.artifactID ≠ "") :
    SyncEffect c remote db (c.syncDeployments (order.order round) db remote).db := by
  obtain ⟨deleted, fetched, hdeleted, hfetches, hupdates⟩ := sync_phases hquiet
  have hlisted : ∀ dep ∈ remote,
      deleted.db.rows.lookup dep.artifactID = db.rows.lookup dep.artifactID :=
    fun dep hdep => (hdeleted _).trans (if_neg fun h => h.1 (List.mem_map_of_mem hdep))
  have hfetchList : ∀ dep, dep ∈ grouped fetchOrder (·.kind)
      (diffOf order round db remote).toFetch ↔
        (dep ∈ remote ∧ actionFor db dep = .fetch) ∧ dep.kind ∈ fetchOrder := by
    intro dep
    rw [mem_grouped, mem_toFetch]
  have hfetchKeys : ((grouped fetchOrder (·.kind)
      (diffOf order round db remote).toFetch).map (·.artifactID)).Nodup :=
    nodup_map_grouped (by decide) (hids.sublist (List.filter_sublist.map _))
  obtain ⟨hfetchFrame, hfetchWritten⟩ := hfetches.keyed (·.artifactID)
    (fun state uuid => state.db.rows.lookup uuid)
    (fun dep value => dep.artifactID ≠ "" ∧ IsNewer dep value)
    (fun dep _ result => ∃ row, result = some row ∧ Matches dep .deployed row)
    (fun state dep next hstep hready => hstep.keyed hready) hfetchKeys (by
      intro dep hdep
      obtain ⟨⟨hremote, haction⟩, hkind⟩ := (hfetchList dep).mp hdep
      rw [hlisted dep hremote]
      exact ⟨hnamed dep hremote haction hkind, hnewer dep hremote⟩)
  -- a listed artifact that is not fetched is as before
  have hnotFetched : ∀ dep ∈ remote, (actionFor db dep = .fetch → dep.kind ∉ fetchOrder) →
      fetched.db.rows.lookup dep.artifactID = db.rows.lookup dep.artifactID := by
    intro dep hdep hnot
    rw [hfetchFrame, hlisted dep hdep]
    intro hkey
    obtain ⟨other, hother, heq⟩ := List.mem_map.mp hkey
    obtain ⟨⟨hremote, haction⟩, hkind⟩ := (hfetchList other).mp hother
    obtain rfl := List.inj_on_of_nodup_map hids hremote hdep heq
    exact hnot haction hkind
  obtain ⟨hstatusFrame, hstatusWritten⟩ := hupdates.keyed (·.artifactID)
    (fun state uuid => state.db.rows.lookup uuid)
    (fun dep value => IsNewer dep value ∧ ∀ row ∈ value, row.origin = .controlPlane)
    (fun dep _ result => ∃ state row, parseDesiredState dep.state = some state ∧
      result = some row ∧ Matches dep state row)
    (fun state dep next hstep hready => hstep.keyed hready)
    (hids.sublist (List.filter_sublist.map _)) (by
      intro dep hdep
      obtain ⟨hremote, haction⟩ := mem_toUpdateStatus.mp hdep
      rw [hnotFetched dep hremote (by simp [haction])]
      refine ⟨hnewer dep hremote, fun row hrow => ?_⟩
      obtain ⟨stored, state, hstored, -⟩ := actionFor_eq_updateStatus_iff.mp haction
      obtain ⟨hlookup, horigin⟩ := localRow_eq_some.mp hstored
      obtain rfl := Option.some.inj (hlookup.symm.trans hrow)
      exact horigin)
  have hnotUpdated : ∀ dep ∈ remote, actionFor db dep ≠ .updateStatus →
      (c.syncDeployments (order.order round) db remote).db.rows.lookup dep.artifactID =
        fetched.db.rows.lookup dep.artifactID := by
    intro dep hdep hnot
    refine hstatusFrame _ fun hkey => ?_
    obtain ⟨other, hother, heq⟩ := List.mem_map.mp hkey
    obtain ⟨hremote, haction⟩ := mem_toUpdateStatus.mp hother
    obtain rfl := List.inj_on_of_nodup_map hids hremote hdep heq
    exact hnot haction
  refine ⟨?_, ?_, ?_, ?_⟩
  · intro dep hdep haction hkind
    rw [hnotUpdated dep hdep (by simp [haction])]
    exact hfetchWritten dep ((hfetchList dep).mpr ⟨⟨hdep, haction⟩, hkind⟩)
  · intro dep hdep haction
    exact hstatusWritten dep (mem_toUpdateStatus.mpr ⟨hdep, haction⟩)
  · intro dep hdep hstatus hfetch
    rw [hnotUpdated dep hdep hstatus, hnotFetched dep hdep hfetch]
  · intro uuid huuid
    have hfetchNone : uuid ∉ (grouped fetchOrder (·.kind)
        (diffOf order round db remote).toFetch).map (·.artifactID) := by
      intro hkey
      obtain ⟨dep, hdep, rfl⟩ := List.mem_map.mp hkey
      exact huuid (List.mem_map_of_mem ((hfetchList dep).mp hdep).1.1)
    have hstatusNone : uuid ∉ (diffOf order round db remote).toUpdateStatus.map
        (·.artifactID) := by
      intro hkey
      obtain ⟨dep, hdep, rfl⟩ := List.mem_map.mp hkey
      exact huuid (List.mem_map_of_mem (mem_toUpdateStatus.mp hdep).1)
    rw [hstatusFrame uuid hstatusNone, hfetchFrame uuid hfetchNone, hdeleted]
    simp only [huuid, not_false_eq_true, true_and]

theorem lookup_sync_empty (hdep : dep ∈ remote) (hempty : dep.artifactID = "")
    (haction : actionFor db dep ≠ .updateStatus) :
    (c.syncDeployments (order.order round) db remote).db.rows.lookup "" = db.rows.lookup "" := by
  obtain ⟨deleted, fetched, hdeleted, hfetches, hupdates⟩ := sync_phases hquiet
  have hlisted : "" ∈ remote.map (·.artifactID) := hempty ▸ List.mem_map_of_mem hdep
  have hfetched : fetched.db.rows.lookup "" = db.rows.lookup "" := by
    refine hfetches.invariant (fun state => state.db.rows.lookup "" = db.rows.lookup "")
      (fun state item _ next hstep hstate => hstep.lookup_empty.trans hstate) ?_
    exact (hdeleted "").trans (if_neg fun h => h.1 hlisted)
  refine hupdates.invariant (fun state => state.db.rows.lookup "" = db.rows.lookup "") ?_ hfetched
  intro state item hitem next hstep hstate
  obtain ⟨hremote, hitemAction⟩ := mem_toUpdateStatus.mp hitem
  have hne : "" ≠ item.artifactID := by
    intro heq
    obtain rfl := List.inj_on_of_nodup_map hids hdep hremote (hempty.trans heq)
    exact haction hitemAction
  obtain ⟨cfg, desiredState, affected, -, -, hupsert⟩ := hstep
  rw [ArtifactDB.lookup_upsertConfig_ne hupsert hne, hstate]

end Sync

/-! ## Convergence -/

/-- The database holds what the control plane lists, and there is nothing left to sync. -/
structure Converged (remote : List ControlPlaneDeployment) (before after : ArtifactDB) : Prop where
  stored : ∀ dep ∈ remote, ∀ state, parseDesiredState dep.state = some state →
    ∃ row, localRow after dep.artifactID = some row ∧ row.deploymentID = dep.deploymentID ∧
      row.desiredState = state
  orphans_gone : ∀ uuid row, localRow before uuid = some row →
    uuid ∉ remote.map (·.artifactID) → after.rows.lookup uuid = none
  settled : ∀ order round, diffOf order round after remote = ⟨[], [], []⟩

/-- Artifacts that are listed as undeployed are stored in that deployment and are to be taken
down; what must be fetched can be; every orphan can be deleted. -/
structure Syncable (c : Client) (remote : List ControlPlaneDeployment) (db : ArtifactDB) :
    Prop where
  undeployed : ∀ dep ∈ remote, parseDesiredState dep.state = some .undeployed →
    ∃ row, localRow db dep.artifactID = some row ∧ row.deploymentID = dep.deploymentID ∧
      row.desiredState = .deployed
  fetchable : ∀ dep ∈ remote, NeedsContent db dep →
    dep.kind ∈ fetchOrder ∧ dep.artifactID ≠ ""
  orphans : ∀ uuid row, localRow db uuid = some row → uuid ∉ remote.map (·.artifactID) →
    c.deletes row.kind = true ∧ c.keeps uuid = false

section

variable (c : Client) (order : MapIteration String) (round : Nat) (db : ArtifactDB)
  (remote : List ControlPlaneDeployment) (hids : (remote.map (·.artifactID)).Nodup)
  (hnewer : ∀ dep ∈ remote, IsNewer dep (db.rows.lookup dep.artifactID))
  (hquiet : (c.syncDeployments (order.order round) db remote).log = [])
include hids hnewer hquiet

theorem syncable_of_converged
    (hconverged : Converged remote db (c.syncDeployments (order.order round) db remote).db) :
    Syncable c remote db := by
  obtain ⟨hskip, -⟩ := (diffOf_eq_empty_iff).mp (hconverged.settled order round)
  -- what must be fetched and is not would have to be fetched again
  have hretried : ∀ dep ∈ remote, actionFor db dep = .fetch →
      (c.syncDeployments (order.order round) db remote).db.rows.lookup dep.artifactID ≠
        db.rows.lookup dep.artifactID := by
    intro dep hdep haction hsame
    have hagain : actionFor (c.syncDeployments (order.order round) db remote).db dep = .fetch := by
      rw [actionFor, localRow_congr hsame]
      exact haction
    rw [hskip dep hdep] at hagain
    cases hagain
  have hnamed : ∀ dep ∈ remote, actionFor db dep = .fetch → dep.artifactID ≠ "" := by
    intro dep hdep haction hempty
    refine hretried dep hdep haction ?_
    rw [hempty]
    exact lookup_sync_empty hids hquiet hdep hempty (by simp [haction])
  have heffect := syncEffect hids hquiet hnewer fun dep hdep haction _ => hnamed dep hdep haction
  have hkinds : ∀ dep ∈ remote, actionFor db dep = .fetch → dep.kind ∈ fetchOrder := by
    intro dep hdep haction
    by_contra hkind
    exact hretried dep hdep haction
      (heffect.untouched dep hdep (by simp [haction]) fun _ => hkind)
  refine ⟨?_, ?_, ?_⟩
  · intro dep hdep hstate
    obtain ⟨row, hrow, -, hundeployed⟩ := hconverged.stored dep hdep _ hstate
    cases haction : actionFor db dep with
    | fetch =>
      -- a fetched artifact is stored as deployed
      obtain ⟨stored, hstored, hmatches⟩ :=
        heffect.fetched dep hdep haction (hkinds dep hdep haction)
      obtain rfl := Option.some.inj ((localRow_eq_some.mp hrow).1.symm.trans hstored)
      have hdeployed := hmatches.desiredState
      rw [hundeployed] at hdeployed
      cases hdeployed
    | updateStatus =>
      obtain ⟨stored, state, hstored, hid, hparsed, hdiffers⟩ :=
        actionFor_eq_updateStatus_iff.mp haction
      obtain rfl := Option.some.inj (hstate.symm.trans hparsed)
      refine ⟨stored, hstored, hid, ?_⟩
      cases hdesired : stored.desiredState with
      | deployed => rfl
      | undeployed => exact absurd hdesired.symm hdiffers
    | skip =>
      have hsame := heffect.untouched dep hdep (by simp [haction]) (by simp [haction])
      rw [localRow_congr hsame] at hrow
      have hneeds : NeedsContent db dep := by
        rw [NeedsContent, hrow]
        exact .inr (by rw [hundeployed, hstate])
      rw [(actionFor_eq_fetch_iff (hnewer dep hdep)).mpr hneeds] at haction
      cases haction
  · intro dep hdep hneeds
    have haction := (actionFor_eq_fetch_iff (hnewer dep hdep)).mpr hneeds
    exact ⟨hkinds dep hdep haction, hnamed dep hdep haction⟩
  · intro uuid row hrow huuid
    have hgone := hconverged.orphans_gone uuid row hrow huuid
    rw [heffect.unlisted uuid huuid, (localRow_eq_some.mp hrow).1] at hgone
    have hremoves : c.removes db uuid = true := by
      by_contra hnot
      rw [if_neg hnot] at hgone
      cases hgone
    rw [removes, hrow, Option.any_some] at hremoves
    simpa using hremoves

theorem syncEffect_of_syncable (hsyncable : Syncable c remote db) :
    SyncEffect c remote db (c.syncDeployments (order.order round) db remote).db :=
  syncEffect hids hquiet hnewer fun dep hdep haction _ =>
    (hsyncable.fetchable dep hdep ((actionFor_eq_fetch_iff (hnewer dep hdep)).mp haction)).2

theorem matches_of_syncable (hsyncable : Syncable c remote db) (hdep : dep ∈ remote)
    {state : DesiredState} (hstate : parseDesiredState dep.state = some state) :
    ∃ row, (c.syncDeployments (order.order round) db remote).db.rows.lookup dep.artifactID =
      some row ∧ Matches dep state row := by
  have heffect := syncEffect_of_syncable c order round db remote hids hnewer hquiet hsyncable
  by_cases hstatus : actionFor db dep = .updateStatus
  · obtain ⟨parsed, row, hparsed, hlookup, hmatches⟩ := heffect.updated dep hdep hstatus
    obtain rfl := Option.some.inj (hstate.symm.trans hparsed)
    exact ⟨row, hlookup, hmatches⟩
  · -- not a change of the state alone, so the listed state is `deployed`
    have hneeds : NeedsContent db dep ∧ state = .deployed := by
      cases state with
      | undeployed =>
        obtain ⟨row, hrow, hid, hdeployed⟩ := hsyncable.undeployed dep hdep hstate
        refine absurd (actionFor_eq_updateStatus_iff.mpr ⟨row, _, hrow, hid, hstate, ?_⟩) hstatus
        rw [hdeployed]
        exact DesiredState.noConfusion
      | deployed =>
        refine ⟨?_, rfl⟩
        unfold NeedsContent
        cases hrow : localRow db dep.artifactID with
        | none => exact hstate
        | some row =>
          by_contra hnot
          simp only [not_or, not_not] at hnot
          refine hstatus (actionFor_eq_updateStatus_iff.mpr
            ⟨row, _, hrow, hnot.1, hstate, fun heq => hnot.2 ?_⟩)
          rw [hstate, heq]
    have haction := (actionFor_eq_fetch_iff (hnewer dep hdep)).mpr hneeds.1
    obtain ⟨row, hlookup, hmatches⟩ :=
      heffect.fetched dep hdep haction (hsyncable.fetchable dep hdep hneeds.1).1
    exact ⟨row, hlookup, hneeds.2 ▸ hmatches⟩

theorem converged_of_syncable (hsyncable : Syncable c remote db) :
    Converged remote db (c.syncDeployments (order.order round) db remote).db := by
  have heffect := syncEffect_of_syncable c order round db remote hids hnewer hquiet hsyncable
  have hgone : ∀ uuid row, localRow db uuid = some row → uuid ∉ remote.map (·.artifactID) →
      (c.syncDeployments (order.order round) db remote).db.rows.lookup uuid = none := by
    intro uuid row hrow huuid
    obtain ⟨hdeletes, hkeeps⟩ := hsyncable.orphans uuid row hrow huuid
    rw [heffect.unlisted uuid huuid, if_pos]
    simp [removes, hrow, hdeletes, hkeeps]
  refine ⟨?_, hgone, fun _ _ => diffOf_eq_empty_iff.mpr ⟨?_, ?_⟩⟩
  · intro dep hdep state hstate
    obtain ⟨row, hlookup, hmatches⟩ :=
      matches_of_syncable c order round db remote hids hnewer hquiet hsyncable hdep hstate
    exact ⟨row, localRow_eq_some.mpr ⟨hlookup, hmatches.origin⟩, hmatches.deploymentID,
      hmatches.desiredState⟩
  · intro dep hdep
    cases hstate : parseDesiredState dep.state with
    | some state =>
      obtain ⟨row, hlookup, hmatches⟩ :=
        matches_of_syncable c order round db remote hids hnewer hquiet hsyncable hdep hstate
      exact actionFor_of_matches hlookup hmatches (by simp [hstate])
    | none =>
      cases haction : actionFor db dep with
      | fetch =>
        have hneeds := (actionFor_eq_fetch_iff (hnewer dep hdep)).mp haction
        obtain ⟨row, hlookup, hmatches⟩ :=
          heffect.fetched dep hdep haction (hsyncable.fetchable dep hdep hneeds).1
        exact actionFor_of_matches hlookup hmatches (by simp [hstate])
      | updateStatus =>
        obtain ⟨_, _, _, _, hparsed, _⟩ := actionFor_eq_updateStatus_iff.mp haction
        rw [hstate] at hparsed
        cases hparsed
      | skip =>
        have hsame := heffect.untouched dep hdep (by simp [haction]) (by simp [haction])
        rw [actionFor, localRow_congr hsame]
        exact haction
  · intro uuid row hrow
    by_contra huuid
    have hlookup := (localRow_eq_some.mp hrow).1
    cases hbefore : localRow db uuid with
    | some stored =>
      rw [hgone uuid stored hbefore huuid] at hlookup
      cases hlookup
    | none =>
      have hsame := heffect.unlisted uuid huuid
      rw [if_neg (by simp [removes, hbefore])] at hsame
      rw [localRow_congr hsame, hbefore] at hrow
      cases hrow

/-- After a sync in which nothing fails, the database holds what the control plane lists, and the
next sync has nothing to do, if and only if no artifact is listed as undeployed that is not
stored as deployed in the same deployment, everything that must be fetched is of a kind that is
fetched, and every orphan is deleted. -/
theorem sync_converges_iff :
    Converged remote db (c.syncDeployments (order.order round) db remote).db ↔
      Syncable c remote db :=
  ⟨syncable_of_converged c order round db remote hids hnewer hquiet,
    converged_of_syncable c order round db remote hids hnewer hquiet⟩

end

/-! ## One gateway -/

def onPremClient : Client where
  batchFetchDeployments := fun ids => .ok (insertAll ∅ (ids.map fun id => (id, "name: " ++ id)))
  parseManifest := fun kind yamlData =>
    let name := trimPrefix yamlData "name: "
    if yamlData = "name: " ++ name then .ok
      { kind := kind, handle := name, displayName := name, version := "v1"
        fallbackID := ⟨"new", by decide⟩ }
    else .error "failed to parse configuration"
  artifactExists := .error "not supported"
  isOnPrem := true
  hasLLMDeploymentService := true
  hasMCPDeploymentService := true
  syncBatchSize := 1

def storedAPI (deploymentID : String) (deployedAt : Time) : Artifact where
  kind := "RestApi"
  handle := deploymentID
  displayName := deploymentID
  version := "v1"
  desiredState := .deployed
  deploymentID := deploymentID
  origin := .controlPlane
  deployedAt := some deployedAt
  cpArtifactID := ""

def listedAPI (artifactID deploymentID state : String) : ControlPlaneDeployment where
  artifactID := artifactID
  deploymentID := deploymentID
  kind := "RestApi"
  state := state
  deployedAt := 2

def shopAndOldDB : ArtifactDB :=
  (ArtifactDB.singleton "shop" (storedAPI "shop-1" 1)).insertRow "old" (storedAPI "old-1" 1)
    (by decide +kernel)

/-- `shop` is taken down, `cart` is new, and `old` is no longer listed. -/
theorem shop_taken_down :
    Converged [listedAPI "shop" "shop-1" "undeployed", listedAPI "cart" "cart-1" "deployed"]
      shopAndOldDB
      (onPremClient.syncDeployments ((storedOrder String).order 0) shopAndOldDB
        [listedAPI "shop" "shop-1" "undeployed", listedAPI "cart" "cart-1" "deployed"]).db := by
  have hkeys : ∀ uuid row, localRow shopAndOldDB uuid = some row →
      uuid = "shop" ∨ uuid = "old" := by
    intro uuid row hrow
    have hkey : uuid ∈ shopAndOldDB.rows.keys := AList.mem_keys.mp
      (AList.lookup_isSome.mp (Option.isSome_of_eq_some (localRow_eq_some.mp hrow).1))
    clear hrow
    revert uuid
    decide +kernel
  refine (sync_converges_iff onPremClient (storedOrder String) 0 shopAndOldDB _ (by decide)
    ?_ (by decide +kernel)).mpr ⟨?_, ?_, ?_⟩
  · decide +kernel
  · decide +kernel
  · decide +kernel
  · intro uuid row hrow huuid
    rcases hkeys uuid row hrow with rfl | rfl
    · exact absurd List.mem_cons_self huuid
    · revert row
      decide +kernel

/-- A new deployment that is listed as undeployed is stored as deployed, and the next sync does
not repair it, because its deployment is no longer newer than the stored one. -/
theorem undeployed_shop_goes_live :
    let remote := [listedAPI "shop" "shop-2" "undeployed"]
    let db := ArtifactDB.singleton "shop" (storedAPI "shop-1" 1)
    let first := onPremClient.syncDeployments ((storedOrder String).order 0) db remote
    let second := onPremClient.syncDeployments ((storedOrder String).order 0) first.db remote
    (first.log = [] ∧ second.log = []) ∧
      (∀ dep ∈ remote, IsNewer dep (db.rows.lookup dep.artifactID)) ∧
      ¬ Converged remote db first.db ∧ ¬ Converged remote first.db second.db := by
  refine ⟨by decide +kernel, by decide +kernel, ?_, ?_⟩
  all_goals
    intro hconverged
    obtain ⟨row, hrow, -, hundeployed⟩ := hconverged.stored _ List.mem_cons_self .undeployed
      (by decide +kernel)
    revert row
    decide +kernel

end ApiPlatform.Controller.ControlPlane
