import ApiPlatform.PlatformApi.Deployments

/-!
# Deleting a deployment

`DeleteDeployment` refuses a deployment whose status is DEPLOYED.  The status row of a
current deployment goes through other values while the gateway is meant to serve it: it
is DEPLOYING until the gateway acknowledges, and FAILED after a late failure or a
timeout.  The deletion takes the status row with it.
-/

namespace ApiPlatform.PlatformApi

open Foundation DeploymentDB

/-! ## The request -/

namespace DeploymentDB

variable (db : DeploymentDB)

/-- The deployment with its status; a deployment that is not the current one is archived and has
none. -/
def getWithState (deploymentID artifactUUID : String) :
    Option (Deployment × Option DeploymentStatus) :=
  ((db.deployments.lookup deploymentID).filter (·.target.artifactUUID = artifactUUID)).map
    fun deployment =>
      (deployment, ((db.deploymentStatus.lookup deployment.target).filter
        (·.deploymentUUID = deploymentID)).map (·.status))

end DeploymentDB

inductive DeletionError where
  | deploymentNotFound
  | deploymentActive
  deriving DecidableEq

namespace System

def deleteDeployment (system : System) (artifactUUID deploymentID : String) :
    Except DeletionError System :=
  match system.db.getWithState deploymentID artifactUUID with
  | none => .error .deploymentNotFound
  | some (_, status) =>
    if status = some .deployed then .error .deploymentActive
    else .ok { system with db := system.db.deleteDeployment deploymentID }

end System

inductive HistoryEvent where
  | operation (event : Event)
  | delete (artifactUUID deploymentID : String)
  deriving DecidableEq

def System.advance (config : DeploymentConfig) (system : System) : HistoryEvent → System
  | .operation event => system.step config event
  | .delete artifactUUID deploymentID =>
    match system.deleteDeployment artifactUUID deploymentID with
    | .ok next => next
    | .error _ => system

/-! ## The property and the condition -/

/-- What a gateway is meant to serve is still there: the row that says so, and the deployment. -/
def System.KeepsServed (system next : System) : Prop :=
  ∀ target row, system.db.deploymentStatus.lookup target = some row →
    row.statusDesired = .deployed →
    next.db.deploymentStatus.lookup target = some row ∧
      ∃ deployment, next.db.deployments.lookup row.deploymentUUID = some deployment

/-- The deployment is not a current one that is to be DEPLOYED and is not yet, or no longer. -/
def System.Settled (system : System) (artifactUUID deploymentID : String) : Prop :=
  ∀ deployment row, system.db.deployments.lookup deploymentID = some deployment →
    deployment.target.artifactUUID = artifactUUID →
    system.db.deploymentStatus.lookup deployment.target = some row →
    row.deploymentUUID = deploymentID → row.statusDesired = .deployed → row.status = .deployed

/-! ## What a deletion changes -/

section Effects

variable {db : DeploymentDB} {deploymentID : String}

theorem DeploymentDB.lookup_status_deleteDeployment (target : Target) :
    (db.deleteDeployment deploymentID).deploymentStatus.lookup target =
      (db.deploymentStatus.lookup target).filter (·.deploymentUUID ≠ deploymentID) := by
  rw [deleteDeployment, lookup_eraseAll]
  cases hrow : db.deploymentStatus.lookup target with
  | none => simp
  | some row =>
    have hmem : target ∈ db.deploymentStatus.keys :=
      mem_keys_of_lookup hrow
    by_cases hsame : row.deploymentUUID = deploymentID
    · simp [hmem, hrow, hsame, Option.filter]
    · simp [hrow, hsame, Option.filter]

theorem DeploymentDB.lookup_deleteDeployment {id : String} (hid : id ≠ deploymentID) :
    (db.deleteDeployment deploymentID).deployments.lookup id = db.deployments.lookup id :=
  AList.lookup_erase_ne hid

theorem DeploymentDB.stored_of_deleteDeployment {id : String} {deployment : Deployment}
    (hstored : (db.deleteDeployment deploymentID).deployments.lookup id = some deployment) :
    db.deployments.lookup id = some deployment := by
  by_cases hid : id = deploymentID
  · rw [hid, deleteDeployment, AList.lookup_erase] at hstored
    cases hstored
  · rwa [lookup_deleteDeployment hid] at hstored

end Effects

namespace System

variable {config : DeploymentConfig} {system next : System} {artifactUUID deploymentID : String}

theorem WellFormed.deleteDeployment (hsystem : system.WellFormed) (deploymentID : String) :
    { system with db := system.db.deleteDeployment deploymentID }.WellFormed where
  keyed := fun id deployment hstored =>
    hsystem.keyed id deployment (stored_of_deleteDeployment hstored)
  homed := by
    intro target row hrow
    rw [lookup_status_deleteDeployment, Option.filter_eq_some_iff] at hrow
    have hother : row.deploymentUUID ≠ deploymentID := of_decide_eq_true hrow.2
    rw [lookup_deleteDeployment hother]
    exact hsystem.homed target row hrow.1
  gateways := fun id deployment hstored =>
    hsystem.gateways id deployment (stored_of_deleteDeployment hstored)
  issued := fun id deployment hstored =>
    hsystem.issued id deployment (stored_of_deleteDeployment hstored)
  unfinished := fun deployment hmem =>
    ⟨(hsystem.unfinished deployment hmem).1, fun stored hstored =>
      (hsystem.unfinished deployment hmem).2 stored
        (stored_of_deleteDeployment hstored)⟩

theorem deleteDeployment_ok_iff :
    system.deleteDeployment artifactUUID deploymentID = .ok next ↔
      ∃ deployment, system.db.deployments.lookup deploymentID = some deployment ∧
        deployment.target.artifactUUID = artifactUUID ∧
        (∀ row, system.db.deploymentStatus.lookup deployment.target = some row →
          row.deploymentUUID = deploymentID → row.status ≠ .deployed) ∧
        { system with db := system.db.deleteDeployment deploymentID } = next := by
  unfold System.deleteDeployment getWithState
  cases hdeployment : system.db.deployments.lookup deploymentID with
  | none => simp
  | some deployment =>
    by_cases hartifact : deployment.target.artifactUUID = artifactUUID
    · cases hrow : system.db.deploymentStatus.lookup deployment.target with
      | none => simp [Option.filter, hartifact, hrow]
      | some row =>
        by_cases hcurrent : row.deploymentUUID = deploymentID
        · by_cases hstatus : row.status = .deployed
          · simp [Option.filter, hartifact, hrow, hcurrent, hstatus]
          · simp [Option.filter, hartifact, hrow, hcurrent, hstatus]
        · simp [Option.filter, hartifact, hrow, hcurrent]
    · simp [Option.filter, hartifact]

theorem WellFormed.advance (hsystem : system.WellFormed) (event : HistoryEvent) :
    (system.advance config event).WellFormed := by
  cases event with
  | operation event => exact hsystem.step event
  | delete artifactUUID deploymentID =>
    simp only [System.advance]
    cases hdelete : system.deleteDeployment artifactUUID deploymentID with
    | error problem => exact hsystem
    | ok next =>
      obtain ⟨deployment, -, -, -, rfl⟩ := deleteDeployment_ok_iff.mp hdelete
      exact hsystem.deleteDeployment deploymentID

theorem KeepsServed.refl (hsystem : system.WellFormed) : system.KeepsServed system := by
  intro target row hrow _
  obtain ⟨deployment, hdeployment, -⟩ := hsystem.homed target row hrow
  exact ⟨hrow, deployment, hdeployment⟩

theorem keepsServed_deleted_iff {deployment : Deployment} (hsystem : system.WellFormed)
    (hdeployment : system.db.deployments.lookup deploymentID = some deployment) :
    system.KeepsServed { system with db := system.db.deleteDeployment deploymentID } ↔
      ∀ row, system.db.deploymentStatus.lookup deployment.target = some row →
        row.deploymentUUID = deploymentID → row.statusDesired ≠ .deployed := by
  constructor
  · intro hkeeps row hrow hcurrent hdesired
    have hkept := (hkeeps deployment.target row hrow hdesired).1
    rw [lookup_status_deleteDeployment, Option.filter_eq_some_iff] at hkept
    exact of_decide_eq_true hkept.2 hcurrent
  · intro hnot target row hrow hdesired
    obtain ⟨stored, hstored, hhome⟩ := hsystem.homed target row hrow
    have hother : row.deploymentUUID ≠ deploymentID := by
      rintro rfl
      rw [hdeployment] at hstored
      cases hstored
      exact hnot row (hhome ▸ hrow) rfl hdesired
    rw [lookup_status_deleteDeployment, lookup_deleteDeployment hother]
    exact ⟨Option.filter_eq_some_iff.mpr ⟨hrow, decide_eq_true hother⟩, stored, hstored⟩

theorem keepsServed_delete_iff (hsystem : system.WellFormed) :
    system.KeepsServed (system.advance config (.delete artifactUUID deploymentID)) ↔
      system.Settled artifactUUID deploymentID := by
  simp only [System.advance]
  cases hdelete : system.deleteDeployment artifactUUID deploymentID with
  | ok next =>
    obtain ⟨deployment, hdeployment, hartifact, hactive, rfl⟩ :=
      deleteDeployment_ok_iff.mp hdelete
    rw [keepsServed_deleted_iff hsystem hdeployment]
    constructor
    · intro hnot found row hfound _ hrow hcurrent hdesired
      rw [hdeployment] at hfound
      cases hfound
      exact absurd hdesired (hnot row hrow hcurrent)
    · intro hsettled row hrow hcurrent hdesired
      exact hactive row hrow hcurrent
        (hsettled deployment row hdeployment hartifact hrow hcurrent hdesired)
  | error problem =>
    refine iff_of_true (KeepsServed.refl hsystem) ?_
    intro deployment row hdeployment hartifact hrow hcurrent _
    by_contra hstatus
    -- the status is not DEPLOYED, so the request was not refused
    have hactive : ∀ found, system.db.deploymentStatus.lookup deployment.target = some found →
        found.deploymentUUID = deploymentID → found.status ≠ .deployed := by
      intro found hfound _
      rw [hrow] at hfound
      cases hfound
      exact hstatus
    rw [deleteDeployment_ok_iff.mpr ⟨deployment, hdeployment, hartifact, hactive, rfl⟩] at hdelete
    cases hdelete

end System

/-- After any history, a deletion leaves every deployment that a gateway is meant to serve in
place if and only if the deployment it names is not a current one whose desired status is
DEPLOYED while its status is not. -/
theorem deletion_keeps_served_iff (config : DeploymentConfig) (history : List HistoryEvent)
    (artifactUUID deploymentID : String) :
    let system := run (System.advance config) System.start history
    system.KeepsServed (system.advance config (.delete artifactUUID deploymentID)) ↔
      system.Settled artifactUUID deploymentID := by
  have hreached : (run (System.advance config) System.start history).WellFormed :=
    run_invariant (fun _ event hsystem => hsystem.advance event) System.wellFormed_start history
  exact System.keepsServed_delete_iff hreached

/-- The status row of an artifact and gateway names a stored deployment of both. -/
theorem status_names_stored_deployment (config : DeploymentConfig) (history : List HistoryEvent) :
    (run (System.advance config) System.start history).db.Homed :=
  (run_invariant (fun _ event hsystem => hsystem.advance event) System.wellFormed_start
    history).homed

/-! ## A deployment that is not yet acknowledged -/

/-- The gateway was told to deploy and has not answered yet: the deployment can be deleted, and
nothing is left of it. -/
theorem deploying_deployment_deleted :
    let deploying := run (System.advance transitional) System.start
      [.operation (.createDeployment (petsDeployment "d1" "")),
        .operation (.setDeployed (petsDeployment "d1" ""))]
    let deleted := deploying.advance transitional (.delete "pets" "d1")
    deploying.db.deploymentStatus.lookup petsOnEdge =
        some ⟨"d1", .deploying, .deployed, 0, "", 0⟩ ∧
      deploying.announced.map (fun operation => (operation.deploymentID, operation.action)) =
        [("d1", .deploy)] ∧
      deleted.db.deploymentStatus.lookup petsOnEdge = none ∧
      deleted.db.deployments.lookup "d1" = none := by
  decide +kernel

end ApiPlatform.PlatformApi
