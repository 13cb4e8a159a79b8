import ApiPlatform.PlatformApi.Deployments

/-!
# The limit on stored deployments

`CreateWithLimitEnforcement` deletes the five oldest archived deployments of a target
when the limit is reached, and then inserts the new one.  A deployment may be based on
another one, which the new row refers to: the base may be one of those just deleted.
-/

namespace ApiPlatform.PlatformApi

open Foundation

/-! ## Deployments with their bases -/

/-- What the foreign key `base_deployment_uuid` does when the base is deleted: SQLite and
PostgreSQL clear it, SQL Server refuses the deletion. -/
inductive ReferentialAction where
  | setNull
  | noAction
  deriving DecidableEq

/-- The tables, with the column `base_deployment_uuid` where it is not NULL. -/
structure BasedDB where
  db : DeploymentDB
  base : GoMap String String

structure Creation where
  deployment : Deployment
  baseDeploymentID : Option String
  status : DeploymentStatus
  now : Nat

namespace BasedDB

def empty : BasedDB :=
  ⟨.empty, ∅⟩

section Functions

variable (action : ReferentialAction) (hardLimit : Nat) (store : BasedDB)

def delete (deploymentID : String) : Option BasedDB :=
  let referring := store.base.keys.filter fun id => store.base.lookup id = some deploymentID
  match action with
  | .setNull =>
    some ⟨store.db.deleteDeployment deploymentID, eraseAll store.base (deploymentID :: referring)⟩
  | .noAction =>
    if referring.any (· ≠ deploymentID) then none
    else some ⟨store.db.deleteDeployment deploymentID, store.base.erase deploymentID⟩

def deleteAll (deployments : List Deployment) : Option BasedDB :=
  deployments.foldlM (fun store deployment => delete action store deployment.deploymentID) store

def enforceLimit (target : Target) : Option BasedDB :=
  store.deleteAll action (store.db.victims target hardLimit)

def Refers (creation : Creation) : Prop :=
  ∀ base ∈ creation.baseDeploymentID,
    base = creation.deployment.deploymentID ∨ (store.db.deployments.lookup base).isSome

instance (creation : Creation) : Decidable (store.Refers creation) :=
  inferInstanceAs (Decidable (∀ base ∈ creation.baseDeploymentID, _ ∨ _))

def insert (creation : Creation) : BasedDB where
  db := store.db.insertDeployment creation.deployment creation.status creation.now
  base :=
    match creation.baseDeploymentID with
    | some base => store.base.insert creation.deployment.deploymentID base
    | none => store.base

/-- A result of `none` is an error, after which the transaction is rolled back. -/
def createWithLimitEnforcement (creation : Creation) : Option BasedDB := do
  let store ← store.enforceLimit action hardLimit creation.deployment.target
  if store.db.deployments.lookup creation.deployment.deploymentID = none ∧
      store.Refers creation then some (store.insert creation)
  else none

def step (creation : Creation) : BasedDB :=
  (store.createWithLimitEnforcement action hardLimit creation).getD store

end Functions

/-! ## The property and the condition -/

section Properties

variable (action : ReferentialAction) (hardLimit : Nat) (store : BasedDB) (creation : Creation)

/-- Without a deletion the creation would go through: its id is new and its base exists. -/
def Admits : Prop :=
  store.db.deployments.lookup creation.deployment.deploymentID = none ∧ store.Refers creation

def Bounded : Prop :=
  ∀ target, (store.db.deploymentsOf target).length ≤ hardLimit

/-- Every base is a stored deployment, and so is the deployment that has it. -/
def RefersToStored : Prop :=
  ∀ id base, store.base.lookup id = some base →
    (store.db.deployments.lookup id).isSome ∧ (store.db.deployments.lookup base).isSome

/-- A deployment that is removed is archived, and no other one that stays is older. -/
structure EvictsOldest (next : BasedDB) (removed : Deployment) : Prop where
  archived : removed ∈ store.db.archivedOf creation.deployment.target
  oldest : ∀ kept ∈ store.db.archivedOf creation.deployment.target,
    kept.deploymentID ≠ creation.deployment.deploymentID →
    next.db.deployments.lookup kept.deploymentID = some kept → removed.createdAt ≤ kept.createdAt

structure Completed (next : BasedDB) : Prop where
  bounded : next.Bounded hardLimit
  evicts : ∀ removed, store.db.deployments.lookup removed.deploymentID = some removed →
    next.db.deployments.lookup removed.deploymentID ≠ some removed →
    store.EvictsOldest creation next removed
  current : ∃ row, next.db.deploymentStatus.lookup creation.deployment.target = some row ∧
    row.deploymentUUID = creation.deployment.deploymentID ∧
    next.db.deployments.lookup creation.deployment.deploymentID = some creation.deployment
  references : next.RefersToStored

/-- A creation does what it should, and does not fail because of the deletions. -/
structure Sound : Prop where
  completed : ∀ next, store.createWithLimitEnforcement action hardLimit creation = some next →
    store.Completed hardLimit creation next
  succeeds : store.Admits creation →
    (store.createWithLimitEnforcement action hardLimit creation).isSome

/-- The base is not among the deployments to be deleted; where the database refuses to delete a
base, a deployment based on one of them is that one or is deleted before it. -/
def Spares : Prop :=
  store.Admits creation →
    hardLimit ≤ (store.db.deploymentsOf creation.deployment.target).length →
    (∀ base ∈ creation.baseDeploymentID,
      ∀ victim ∈ store.db.oldestArchived creation.deployment.target, victim.deploymentID ≠ base) ∧
    (action = .noAction → ∀ before victim after,
      store.db.oldestArchived creation.deployment.target = before ++ victim :: after →
      ∀ id, store.base.lookup id = some victim.deploymentID →
        id ∈ (before ++ [victim]).map (·.deploymentID))

end Properties

end BasedDB

/-! ## Counting deployments -/

namespace DeploymentDB

variable {db : DeploymentDB} {target : Target} {id : String} {deployment : Deployment}

theorem length_deploymentsOf_deleteDeployment
    (hstored : db.deployments.lookup id = some deployment) (htarget : deployment.target = target) :
    ((db.deleteDeployment id).deploymentsOf target).length + 1 =
      (db.deploymentsOf target).length := by
  obtain ⟨found, before, after, -, hsplit, herase⟩ :=
    List.exists_of_kerase (mem_keys_of_lookup hstored)
  have hfound : db.deployments.lookup id = some found :=
    AList.mem_lookup_iff.mpr (by rw [hsplit]; simp)
  rw [hstored] at hfound
  cases hfound
  have hentries : (db.deleteDeployment id).deployments.entries = before ++ after := herase
  simp only [deploymentsOf, allDeployments, hentries, hsplit, List.map_append, List.map_cons,
    List.filter_append, List.length_append]
  rw [List.filter_cons_of_pos (by simpa using htarget), List.length_cons]
  omega

theorem deploymentsOf_insert_ne (hother : deployment.target ≠ target)
    (hnew : db.deployments.lookup id = none) (status : GoMap Target StatusRow) :
    ({ db with
        deployments := db.deployments.insert id deployment
        deploymentStatus := status } : DeploymentDB).deploymentsOf target =
      db.deploymentsOf target := by
  have hfresh : id ∉ db.deployments := AList.lookup_eq_none.mp hnew
  simp only [deploymentsOf, allDeployments, AList.entries_insert_of_notMem hfresh, List.map_cons]
  rw [List.filter_cons_of_neg (by simpa using hother)]

theorem length_deploymentsOf_insert (hnew : db.deployments.lookup id = none)
    (status : GoMap Target StatusRow) :
    (({ db with
        deployments := db.deployments.insert id deployment
        deploymentStatus := status } : DeploymentDB).deploymentsOf deployment.target).length =
      (db.deploymentsOf deployment.target).length + 1 := by
  have hfresh : id ∉ db.deployments := AList.lookup_eq_none.mp hnew
  simp only [deploymentsOf, allDeployments, AList.entries_insert_of_notMem hfresh, List.map_cons]
  rw [List.filter_cons_of_pos (by simp), List.length_cons]

theorem archivedOf_ne_nil (hkeyed : db.Keyed) (hcount : 2 ≤ (db.deploymentsOf target).length) :
    db.archivedOf target ≠ [] := by
  have hle : (db.deploymentsOf target).length ≤ _ := length_deploymentsOf_le hkeyed
  exact List.ne_nil_of_length_pos (by omega)

theorem sublist_deploymentsOf_foldl {victims : List Deployment} :
    ((victims.foldl (fun db victim => db.deleteDeployment victim.deploymentID) db).deploymentsOf
      target).Sublist (db.deploymentsOf target) := by
  induction victims generalizing db with
  | nil => exact List.Sublist.refl _
  | cons victim rest ih => exact ih.trans (((List.kerase_sublist _ _).map _).filter _)

theorem mem_oldestArchived_of_length_le (hmem : deployment ∈ db.archivedOf target)
    (hfew : (db.archivedOf target).length ≤ 5) : deployment ∈ db.oldestArchived target := by
  rw [oldestArchived, List.take_of_length_le (by rwa [List.length_mergeSort])]
  exact List.mem_mergeSort.mpr hmem

theorem length_enforceLimit {hardLimit : Nat} (hkeyed : db.Keyed) (hlimit : 2 ≤ hardLimit)
    (hbounded : (db.deploymentsOf target).length ≤ hardLimit) :
    ((db.enforceLimit target hardLimit).deploymentsOf target).length + 1 ≤ hardLimit := by
  unfold enforceLimit victims
  split
  next hfull =>
    have harchived := archivedOf_ne_nil hkeyed (hlimit.trans hfull)
    cases hvictims : db.oldestArchived target with
    | nil =>
      have hlength : (db.oldestArchived target).length = min 5 (db.archivedOf target).length := by
        rw [oldestArchived, List.length_take, List.length_mergeSort]
      have hpos := List.length_pos_iff.mpr harchived
      rw [hvictims, List.length_nil] at hlength
      omega
    | cons victim rest =>
      have hmem : victim ∈ db.oldestArchived target := hvictims ▸ List.mem_cons_self
      obtain ⟨hstored, htarget⟩ := stored_of_mem_archivedOf hkeyed (mem_archivedOf_of_oldest hmem)
      have hfirst := length_deploymentsOf_deleteDeployment hstored htarget
      have hrest : ((rest.foldl (fun db victim => db.deleteDeployment victim.deploymentID)
          (db.deleteDeployment victim.deploymentID)).deploymentsOf target).length ≤ _ :=
        sublist_deploymentsOf_foldl.length_le
      rw [List.foldl_cons]
      omega
  next hroom => exact Nat.not_le.mp hroom

theorem createdAt_le_of_oldest {kept : Deployment} (hmem : deployment ∈ db.oldestArchived target)
    (hkept : kept ∈ db.archivedOf target) (hstays : kept ∉ db.oldestArchived target) :
    deployment.createdAt ≤ kept.createdAt := by
  let older := fun first second : Deployment => decide (first.createdAt ≤ second.createdAt)
  have hsorted : ((db.archivedOf target).mergeSort older).Pairwise (older · · = true) :=
    List.pairwise_mergeSort (by intro first second third; simp [older]; omega)
      (by intro first second; simp [older]; omega) _
  have hlater : kept ∈ (db.archivedOf target).mergeSort older := List.mem_mergeSort.mpr hkept
  rw [← List.take_append_drop 5 (List.mergeSort _ _), List.pairwise_append] at hsorted
  rw [← List.take_append_drop 5 (List.mergeSort _ _), List.mem_append] at hlater
  exact of_decide_eq_true (hsorted.2.2 deployment hmem kept (hlater.resolve_left hstays))

end DeploymentDB

/-! ## Deletions -/

namespace BasedDB

variable {action : ReferentialAction} {hardLimit : Nat} {store next : BasedDB} {target : Target}
  {deploymentID : String}

theorem mem_referring {id : String} :
    id ∈ store.base.keys.filter (fun id => store.base.lookup id = some deploymentID) ↔
      store.base.lookup id = some deploymentID := by
  rw [List.mem_filter]
  refine ⟨fun hmem => of_decide_eq_true hmem.2, fun hlookup => ?_⟩
  exact ⟨mem_keys_of_lookup hlookup, decide_eq_true hlookup⟩

theorem delete_noAction_eq_some_iff :
    store.delete .noAction deploymentID = some next ↔
      (∀ id, store.base.lookup id = some deploymentID → id = deploymentID) ∧
        ⟨store.db.deleteDeployment deploymentID, store.base.erase deploymentID⟩ = next := by
  simp only [delete]
  split
  next hrefers =>
    obtain ⟨id, hid, hother⟩ := List.any_eq_true.mp hrefers
    refine iff_of_false (by simp) fun hboth => of_decide_eq_true hother ?_
    exact hboth.1 id (mem_referring.mp hid)
  next hnone =>
    have hown : ∀ id, store.base.lookup id = some deploymentID → id = deploymentID := by
      intro id hid
      by_contra hother
      exact hnone (List.any_eq_true.mpr ⟨id, mem_referring.mpr hid, decide_eq_true hother⟩)
    rw [Option.some.injEq, and_iff_right hown]

theorem db_delete (hdelete : store.delete action deploymentID = some next) :
    next.db = store.db.deleteDeployment deploymentID := by
  cases action with
  | setNull =>
    cases hdelete
    rfl
  | noAction => rw [← (delete_noAction_eq_some_iff.mp hdelete).2]

theorem lookup_base_delete (hdelete : store.delete action deploymentID = some next)
    {id base : String} (hbase : next.base.lookup id = some base) :
    id ≠ deploymentID ∧ base ≠ deploymentID ∧ store.base.lookup id = some base := by
  cases action with
  | setNull =>
    cases hdelete
    rw [lookup_eraseAll] at hbase
    split at hbase
    · cases hbase
    next hkept =>
      rw [List.mem_cons, not_or] at hkept
      refine ⟨hkept.1, ?_, hbase⟩
      rintro rfl
      exact hkept.2 (mem_referring.mpr hbase)
  | noAction =>
    obtain ⟨hown, rfl⟩ := delete_noAction_eq_some_iff.mp hdelete
    obtain ⟨hid, hkept⟩ := lookup_erase_eq_some_iff.mp hbase
    refine ⟨hid, ?_, hkept⟩
    rintro rfl
    exact hid (hown id hkept)

theorem RefersToStored.delete (hrefers : store.RefersToStored)
    (hdelete : store.delete action deploymentID = some next) : next.RefersToStored := by
  intro id base hbase
  obtain ⟨hid, hother, hstored⟩ := lookup_base_delete hdelete hbase
  rw [db_delete hdelete, DeploymentDB.deployments_deleteDeployment, AList.lookup_erase_ne hid,
    AList.lookup_erase_ne hother]
  exact hrefers id base hstored

section Victims

variable {victims : List Deployment}

theorem deleteAll_cons (victim : Deployment) :
    store.deleteAll action (victim :: victims) =
      (store.delete action victim.deploymentID).bind (·.deleteAll action victims) :=
  rfl

theorem db_deleteAll (hdelete : store.deleteAll action victims = some next) :
    next.db = victims.foldl (fun db victim =>
      db.deleteDeployment victim.deploymentID) store.db := by
  induction victims generalizing store with
  | nil =>
    cases hdelete
    rfl
  | cons victim rest ih =>
    obtain ⟨middle, hfirst, hrest⟩ := Option.bind_eq_some_iff.mp hdelete
    rw [ih hrest, db_delete hfirst, List.foldl_cons]

theorem RefersToStored.deleteAll (hrefers : store.RefersToStored)
    (hdelete : store.deleteAll action victims = some next) : next.RefersToStored := by
  induction victims generalizing store with
  | nil =>
    cases hdelete
    exact hrefers
  | cons victim rest ih =>
    obtain ⟨middle, hfirst, hrest⟩ := Option.bind_eq_some_iff.mp hdelete
    exact ih (hrefers.delete hfirst) hrest

theorem deleteAll_setNull_isSome : (store.deleteAll .setNull victims).isSome := by
  induction victims generalizing store with
  | nil => rfl
  | cons victim rest ih => exact ih

theorem deleteAll_noAction_isSome_iff :
    (store.deleteAll .noAction victims).isSome ↔
      ∀ before victim after, victims = before ++ victim :: after →
        ∀ id, store.base.lookup id = some victim.deploymentID →
          id ∈ (before ++ [victim]).map (·.deploymentID) := by
  induction victims generalizing store with
  | nil => simp [deleteAll]
  | cons first rest ih =>
    rw [deleteAll_cons]
    constructor
    · intro hsome
      obtain ⟨final, hfinal⟩ := Option.isSome_iff_exists.mp hsome
      obtain ⟨middle, hfirst, hrest⟩ := Option.bind_eq_some_iff.mp hfinal
      obtain ⟨hown, rfl⟩ := delete_noAction_eq_some_iff.mp hfirst
      have hlater := ih.mp (Option.isSome_iff_exists.mpr ⟨final, hrest⟩)
      intro before victim after hsplit id hid
      rcases List.cons_eq_append_iff.mp hsplit with ⟨rfl, hhead⟩ | ⟨tail, rfl, htail⟩
      · cases hhead
        simpa using hown id hid
      · by_cases hdeleted : id = first.deploymentID
        · simp [hdeleted]
        · have hkept := hlater tail victim after htail id
            ((AList.lookup_erase_ne hdeleted).trans hid)
          exact List.mem_cons_of_mem _ hkept
    · intro hall
      have hown : ∀ id, store.base.lookup id = some first.deploymentID →
          id = first.deploymentID := by
        intro id hid
        simpa using hall [] first rest rfl id hid
      rw [delete_noAction_eq_some_iff.mpr ⟨hown, rfl⟩]
      refine ih.mpr fun before victim after hsplit id hid => ?_
      obtain ⟨hother, hkept⟩ := lookup_erase_eq_some_iff.mp hid
      have hmem := hall (first :: before) victim after (by rw [hsplit]; rfl) id hkept
      exact (List.mem_cons.mp hmem).resolve_left hother

end Victims

/-! ## Creations -/

theorem db_enforceLimit (hlimit : store.enforceLimit action hardLimit target = some next) :
    next.db = store.db.enforceLimit target hardLimit :=
  db_deleteAll hlimit

theorem enforceLimit_isSome_iff :
    (store.enforceLimit action hardLimit target).isSome ↔
      (hardLimit ≤ (store.db.deploymentsOf target).length → action = .noAction →
        ∀ before victim after, store.db.oldestArchived target = before ++ victim :: after →
          ∀ id, store.base.lookup id = some victim.deploymentID →
            id ∈ (before ++ [victim]).map (·.deploymentID)) := by
  unfold enforceLimit DeploymentDB.victims
  by_cases hfull : hardLimit ≤ (store.db.deploymentsOf target).length
  · rw [if_pos hfull]
    cases action with
    | setNull => simp [deleteAll_setNull_isSome]
    | noAction =>
      rw [deleteAll_noAction_isSome_iff]
      simp only [hfull, forall_const]
  · simp [hfull, deleteAll]

variable {creation : Creation}

theorem createWithLimitEnforcement_eq_some_iff :
    store.createWithLimitEnforcement action hardLimit creation = some next ↔
      ∃ trimmed, store.enforceLimit action hardLimit creation.deployment.target = some trimmed ∧
        trimmed.Admits creation ∧ trimmed.insert creation = next := by
  unfold createWithLimitEnforcement Admits
  rw [Option.bind_eq_bind, Option.bind_eq_some_iff]
  refine exists_congr fun trimmed => and_congr_right fun _ => ?_
  split
  next hadmits => simp [hadmits]
  next hrefused => simp [hrefused]

structure Valid (hardLimit : Nat) (store : BasedDB) : Prop where
  keyed : store.db.Keyed
  homed : store.db.Homed
  bounded : store.Bounded hardLimit
  refers : store.RefersToStored

namespace Valid

theorem enforceLimit {trimmed : BasedDB} (hvalid : store.Valid hardLimit)
    (hlimit : store.enforceLimit action hardLimit target = some trimmed) :
    trimmed.Valid hardLimit := by
  have hdb := db_enforceLimit hlimit
  have htrimmed := DeploymentDB.trimmed_enforceLimit hvalid.keyed hvalid.homed target hardLimit
  rw [← hdb] at htrimmed
  refine ⟨?_, ?_, ?_, hvalid.refers.deleteAll hlimit⟩
  · exact fun id deployment hstored =>
      hvalid.keyed id deployment (htrimmed.stored id deployment hstored)
  · intro other row hrow
    rw [htrimmed.status] at hrow
    rw [htrimmed.current other row hrow]
    exact hvalid.homed other row hrow
  · intro other
    rw [hdb]
    exact DeploymentDB.sublist_deploymentsOf_foldl.length_le.trans (hvalid.bounded other)

theorem insert {trimmed : BasedDB} (hvalid : trimmed.Valid hardLimit)
    (hadmits : trimmed.Admits creation)
    (hroom : (trimmed.db.deploymentsOf creation.deployment.target).length + 1 ≤ hardLimit) :
    (trimmed.insert creation).Valid hardLimit := by
  obtain ⟨hnew, hbase⟩ := hadmits
  have hkept {id : String} (hstored : (trimmed.db.deployments.lookup id).isSome) :
      ((trimmed.insert creation).db.deployments.lookup id).isSome := by
    rw [AList.lookup_isSome] at hstored ⊢
    exact (AList.mem_insert _).mpr (.inr hstored)
  have hown : ((trimmed.insert creation).db.deployments.lookup
      creation.deployment.deploymentID).isSome :=
    AList.lookup_isSome.mpr ((AList.mem_insert _).mpr (.inl rfl))
  refine ⟨?_, ?_, ?_, ?_⟩
  · intro id deployment hstored
    rcases lookup_insert_eq_some_iff.mp hstored with ⟨rfl, rfl⟩ | ⟨-, hother⟩
    · rfl
    · exact hvalid.keyed id deployment hother
  · intro target row hrow
    rcases lookup_insert_eq_some_iff.mp hrow with ⟨rfl, rfl⟩ | ⟨-, hother⟩
    · exact ⟨creation.deployment, AList.lookup_insert _, rfl⟩
    · obtain ⟨deployment, hstored, hhome⟩ := hvalid.homed target row hother
      exact ⟨deployment, (AList.lookup_insert_ne (ne_of_lookup hstored hnew)).trans hstored, hhome⟩
  · intro target
    by_cases htarget : creation.deployment.target = target
    · subst htarget
      exact (DeploymentDB.length_deploymentsOf_insert hnew _).le.trans hroom
    · exact (congrArg List.length (DeploymentDB.deploymentsOf_insert_ne htarget hnew _)).le.trans
        (hvalid.bounded target)
  · intro id base hlookup
    unfold BasedDB.insert at hlookup
    split at hlookup
    next given hgiven =>
      rcases lookup_insert_eq_some_iff.mp hlookup with ⟨rfl, rfl⟩ | ⟨-, hother⟩
      · refine ⟨hown, ?_⟩
        rcases hbase given hgiven with rfl | hstored
        · exact hown
        · exact hkept hstored
      · exact (hvalid.refers id base hother).imp hkept hkept
    next => exact (hvalid.refers id base hlookup).imp hkept hkept

section

variable (hvalid : store.Valid hardLimit)
include hvalid

theorem create (hlimit : 2 ≤ hardLimit)
    (hcreate : store.createWithLimitEnforcement action hardLimit creation = some next) :
    next.Valid hardLimit := by
  obtain ⟨trimmed, htrimmed, hadmits, rfl⟩ := createWithLimitEnforcement_eq_some_iff.mp hcreate
  refine (hvalid.enforceLimit htrimmed).insert hadmits ?_
  rw [db_enforceLimit htrimmed]
  exact DeploymentDB.length_enforceLimit hvalid.keyed hlimit (hvalid.bounded _)

theorem step (hlimit : 2 ≤ hardLimit) (creation : Creation) :
    (store.step action hardLimit creation).Valid hardLimit := by
  unfold BasedDB.step
  cases hcreate : store.createWithLimitEnforcement action hardLimit creation with
  | none => exact hvalid
  | some next => exact hvalid.create hlimit hcreate

theorem evicts
    (hcreate : store.createWithLimitEnforcement action hardLimit creation = some next)
    {removed : Deployment}
    (hstored : store.db.deployments.lookup removed.deploymentID = some removed)
    (hremoved : next.db.deployments.lookup removed.deploymentID ≠ some removed) :
    store.EvictsOldest creation next removed := by
  obtain ⟨trimmed, htrimmed, ⟨hnew, -⟩, rfl⟩ := createWithLimitEnforcement_eq_some_iff.mp hcreate
  have hdb := db_enforceLimit htrimmed
  have hgone : trimmed.db.deployments.lookup removed.deploymentID ≠ some removed := by
    intro hkept
    by_cases hid : removed.deploymentID = creation.deployment.deploymentID
    · rw [hid, hnew] at hkept
      cases hkept
    · exact hremoved ((AList.lookup_insert_ne hid).trans hkept)
  rw [hdb, DeploymentDB.lookup_enforceLimit, hstored] at hgone
  by_cases hvictim : hardLimit ≤ (store.db.deploymentsOf creation.deployment.target).length ∧
      removed.deploymentID ∈
        (store.db.oldestArchived creation.deployment.target).map (·.deploymentID)
  · obtain ⟨victim, hmem, hid⟩ := List.mem_map.mp hvictim.2
    have hvictimStored := (DeploymentDB.stored_of_mem_archivedOf hvalid.keyed
      (DeploymentDB.mem_archivedOf_of_oldest hmem)).1
    rw [hid, hstored] at hvictimStored
    cases hvictimStored
    refine ⟨DeploymentDB.mem_archivedOf_of_oldest hmem, fun kept hkept hother hstays => ?_⟩
    refine DeploymentDB.createdAt_le_of_oldest hmem hkept fun hdeleted => ?_
    rw [show (trimmed.insert creation).db.deployments.lookup kept.deploymentID =
      trimmed.db.deployments.lookup kept.deploymentID from AList.lookup_insert_ne hother, hdb,
      DeploymentDB.lookup_enforceLimit,
      if_pos ⟨hvictim.1, List.mem_map.mpr ⟨kept, hdeleted, rfl⟩⟩] at hstays
    cases hstays
  · exact absurd (if_neg hvictim) hgone

theorem completed (hlimit : 2 ≤ hardLimit)
    (hcreate : store.createWithLimitEnforcement action hardLimit creation = some next) :
    store.Completed hardLimit creation next := by
  have hnext := hvalid.create hlimit hcreate
  refine ⟨hnext.bounded, fun removed => hvalid.evicts hcreate, ?_, hnext.refers⟩
  obtain ⟨trimmed, -, -, rfl⟩ := createWithLimitEnforcement_eq_some_iff.mp hcreate
  exact ⟨_, AList.lookup_insert _, rfl, AList.lookup_insert _⟩

theorem admits_enforceLimit_iff {trimmed : BasedDB}
    (hadmits : store.Admits creation)
    (hlimit : store.enforceLimit action hardLimit creation.deployment.target = some trimmed) :
    trimmed.Admits creation ↔
      (hardLimit ≤ (store.db.deploymentsOf creation.deployment.target).length →
        ∀ base ∈ creation.baseDeploymentID,
          ∀ victim ∈ store.db.oldestArchived creation.deployment.target,
            victim.deploymentID ≠ base) := by
  have hlookup (id : String) :=
    congrArg (fun db => db.deployments.lookup id) (db_enforceLimit hlimit)
  simp only [DeploymentDB.lookup_enforceLimit] at hlookup
  constructor
  · rintro ⟨-, hrefers⟩ hfull base hbase victim hvictim rfl
    have hstored := (DeploymentDB.stored_of_mem_archivedOf hvalid.keyed
      (DeploymentDB.mem_archivedOf_of_oldest hvictim)).1
    rcases hrefers _ hbase with hown | hkept
    · rw [hown, hadmits.1] at hstored
      cases hstored
    · rw [hlookup, if_pos ⟨hfull, List.mem_map.mpr ⟨victim, hvictim, rfl⟩⟩] at hkept
      cases hkept
  · intro hspared
    refine ⟨by rw [hlookup, hadmits.1, ite_self], fun base hbase => ?_⟩
    refine (hadmits.2 base hbase).imp_right fun hstored => ?_
    rw [hlookup, if_neg]
    · exact hstored
    · rintro ⟨hfull, hvictim⟩
      obtain ⟨victim, hmem, hid⟩ := List.mem_map.mp hvictim
      exact hspared hfull base hbase victim hmem hid

theorem succeeds_iff :
    (store.Admits creation →
        (store.createWithLimitEnforcement action hardLimit creation).isSome) ↔
      store.Spares action hardLimit creation := by
  refine forall_congr' fun hadmits => ?_
  have hsome : (store.createWithLimitEnforcement action hardLimit creation).isSome ↔
      ∃ trimmed, store.enforceLimit action hardLimit creation.deployment.target = some trimmed ∧
        trimmed.Admits creation := by
    simp only [Option.isSome_iff_exists, createWithLimitEnforcement_eq_some_iff]
    constructor
    · rintro ⟨next, trimmed, htrimmed, hadmitted, -⟩
      exact ⟨trimmed, htrimmed, hadmitted⟩
    · rintro ⟨trimmed, htrimmed, hadmitted⟩
      exact ⟨_, trimmed, htrimmed, hadmitted, rfl⟩
  rw [hsome]
  constructor
  · rintro ⟨trimmed, htrimmed, hadmitted⟩ hfull
    refine ⟨(hvalid.admits_enforceLimit_iff hadmits htrimmed).mp hadmitted hfull, ?_⟩
    exact enforceLimit_isSome_iff.mp (Option.isSome_iff_exists.mpr ⟨trimmed, htrimmed⟩) hfull
  · intro hspares
    obtain ⟨trimmed, htrimmed⟩ := Option.isSome_iff_exists.mp
      (enforceLimit_isSome_iff.mpr fun hfull => (hspares hfull).2)
    exact ⟨trimmed, htrimmed, (hvalid.admits_enforceLimit_iff hadmits htrimmed).mpr
      fun hfull => (hspares hfull).1⟩

end

theorem empty : BasedDB.empty.Valid hardLimit := by
  refine ⟨?_, ?_, ?_, ?_⟩
  · intro id deployment hstored
    simp [BasedDB.empty, DeploymentDB.empty] at hstored
  · intro target row hrow
    simp [BasedDB.empty, DeploymentDB.empty] at hrow
  · intro target
    simp [BasedDB.empty, DeploymentDB.empty, DeploymentDB.deploymentsOf,
      DeploymentDB.allDeployments]
  · intro id base hbase
    simp [BasedDB.empty] at hbase

end Valid

/-- After any creations, a creation keeps the limit, deletes only the oldest archived deployments,
makes the new deployment current, leaves no reference to a deleted one and does not fail because of
the deletions, if and only if neither its own base nor, where that cannot be deleted, the base of
another deployment is to be deleted. -/
theorem creation_sound_iff (action : ReferentialAction) {hardLimit : Nat} (hlimit : 6 ≤ hardLimit)
    (creations : List Creation) (creation : Creation) :
    let store := run (step action hardLimit) empty creations
    store.Sound action hardLimit creation ↔ store.Spares action hardLimit creation := by
  have htwo : 2 ≤ hardLimit := by omega
  have hvalid : (run (step action hardLimit) empty creations).Valid hardLimit :=
    run_invariant (fun _ creation hstore => hstore.step htwo creation) Valid.empty creations
  refine Iff.trans ⟨fun hsound => hsound.succeeds, fun hsucceeds => ?_⟩ hvalid.succeeds_iff
  exact ⟨fun _ hcreate => hvalid.completed htwo hcreate, hsucceeds⟩

/-! ## A base that is deleted -/

def petsCreation (number : Nat) (base : Option String) : Creation where
  deployment := { petsDeployment ("d" ++ toString number) "" with createdAt := number }
  baseDeploymentID := base
  status := .deployed
  now := number

def sixCreations : List Creation :=
  (List.range 6).map fun number => petsCreation number none

theorem seventh_creation_sound :
    (run (step .setNull 6) empty sixCreations).Sound .setNull 6 (petsCreation 6 (some "d5")) := by
  refine (creation_sound_iff .setNull (by decide) sixCreations _).mpr fun _ _ => ⟨?_, nofun⟩
  have hcurrent : ∀ archived ∈
      (run (step .setNull 6) empty sixCreations).db.archivedOf petsOnEdge,
      archived.deploymentID ≠ "d5" := by decide +kernel
  rintro base ⟨⟩ victim hvictim
  exact hcurrent victim (DeploymentDB.mem_archivedOf_of_oldest hvictim)

/-- The seventh deployment is based on the oldest one, which the limit deletes first: the new row
refers to a deployment that is no longer there, and the request fails. -/
theorem base_evicted :
    (run (step .setNull 6) empty sixCreations).Admits (petsCreation 6 (some "d0")) ∧
      (run (step .setNull 6) empty sixCreations).createWithLimitEnforcement .setNull 6
        (petsCreation 6 (some "d0")) = none := by
  have hvalid : (run (step .setNull 6) empty sixCreations).Valid 6 :=
    run_invariant (fun _ creation hstore => hstore.step (by decide) creation) Valid.empty
      sixCreations
  have hadmits : (run (step .setNull 6) empty sixCreations).Admits
      (petsCreation 6 (some "d0")) := by
    unfold Admits
    decide +kernel
  have holdest : (petsCreation 0 none).deployment ∈
      (run (step .setNull 6) empty sixCreations).db.oldestArchived petsOnEdge :=
    DeploymentDB.mem_oldestArchived_of_length_le (by decide +kernel) (by decide +kernel)
  refine ⟨hadmits, Option.eq_none_iff_forall_ne_some.mpr fun next hcreate => ?_⟩
  obtain ⟨trimmed, htrimmed, hadmitted, -⟩ := createWithLimitEnforcement_eq_some_iff.mp hcreate
  have hspared := (hvalid.admits_enforceLimit_iff hadmits htrimmed).mp hadmitted (by decide +kernel)
  exact hspared "d0" rfl _ holdest rfl

end BasedDB

end ApiPlatform.PlatformApi
