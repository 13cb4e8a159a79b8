import ApiPlatform.Foundation.GoMaps
import ApiPlatform.Foundation.Runs

/-!
# Deployments of the platform API

The tables that `internal/repository/deployment.go` and `artifact_refs.go` maintain
for one organisation, and the operations of `internal/service/deployment.go`,
`deployment_timeout.go` and `artifact_import.go` that change them.  Every database
transaction is one event; the events of different requests may interleave.  The
clock counts milliseconds.
-/

namespace ApiPlatform.PlatformApi

open Foundation

variable {performedAt now hardLimit : Nat} {id : String}

variable {deploymentID : String}

/-! ## Secret placeholders -/

def isRegexSpace (char : Char) : Bool :=
  char == ' ' || char == '\t' || char == '\n' || char == '\x0c' || char == '\r'

def dropStart (start text : List Char) : Option (List Char) :=
  if start.isPrefixOf text then some (text.drop start.length) else none

def dropQuote (text : List Char) : Option (List Char) :=
  match text with
  | '\\' :: '"' :: rest => some rest
  | '"' :: rest => some rest
  | _ => none

/-- `SecretPlaceholderRe` at the start of a text: the handle and what follows. -/
def matchSecretPlaceholder (text : List Char) : Option (String × List Char) := do
  let text ← dropStart ['\x7b', '\x7b'] text
  let text ← dropStart "secret".toList (text.dropWhile isRegexSpace)
  let (first, text) ← text.head?.map fun char => (char, text.dropWhile isRegexSpace)
  if isRegexSpace first then
    let text ← dropQuote text
    let handle := text.takeWhile fun char => char != '"' && char != '\\'
    if handle = [] then none
    else
      let text ← dropQuote (text.drop handle.length)
      let text ← dropStart ['\x7d', '\x7d'] (text.dropWhile isRegexSpace)
      some (String.ofList handle, text)
  else none

/-- The handles of all placeholders from left to right; `skip` characters belong to the
placeholder found before. -/
def secretHandlesFrom : Nat → List Char → List String
  | _, [] => []
  | skip + 1, _ :: rest => secretHandlesFrom skip rest
  | 0, char :: rest =>
    match matchSecretPlaceholder (char :: rest) with
    | some (handle, after) => handle :: secretHandlesFrom (rest.length - after.length) rest
    | none => secretHandlesFrom 0 rest

def extractSecretHandles (content : String) : List String :=
  (secretHandlesFrom 0 content.toList).eraseDups

/-! ## Tables -/

inductive DeploymentStatus where
  | deployed
  | undeployed
  | deploying
  | undeploying
  | failed
  deriving DecidableEq

structure Target where
  artifactUUID : String
  gatewayID : String
  deriving DecidableEq

structure Deployment where
  deploymentID : String
  target : Target
  content : String
  createdAt : Nat
  revision : String := ""
  deriving DecidableEq

structure StatusRow where
  deploymentUUID : String
  status : DeploymentStatus
  statusDesired : DeploymentStatus
  performedAt : Nat
  statusReason : String
  updatedAt : Nat
  deriving DecidableEq

structure SecretRef where
  target : Target
  secretHandle : String
  deriving DecidableEq

inductive SecretStatus where
  | active
  | deprecated
  deriving DecidableEq

structure DeploymentDB where
  deployments : GoMap String Deployment
  deploymentStatus : GoMap Target StatusRow
  secretRefs : List SecretRef
  secrets : GoMap String SecretStatus

namespace DeploymentDB

def empty : DeploymentDB where
  deployments := ∅
  deploymentStatus := ∅
  secretRefs := []
  secrets := ∅

variable (db : DeploymentDB)

def allDeployments : List Deployment :=
  db.deployments.entries.map (·.2)

def deploymentsOf (target : Target) : List Deployment :=
  db.allDeployments.filter (·.target = target)

def refsOf (target : Target) : List String :=
  (db.secretRefs.filter (·.target = target)).map (·.secretHandle)

/-! ## Repository functions

A result of `none` is an error, after which the transaction is rolled back. -/

def upsertDeploymentSecretRefs (target : Target) (handles : List String) : DeploymentDB :=
  { db with
    secretRefs := db.secretRefs.filter (·.target ≠ target) ++
      handles.map fun handle => ⟨target, handle⟩ }

/-- The gateway id of the rows that stand for the artifact itself. -/
def artifactLevelGatewayID : String := ""

def upsertArtifactSecretRefs (artifactUUID configJSON : String) : DeploymentDB :=
  db.upsertDeploymentSecretRefs ⟨artifactUUID, artifactLevelGatewayID⟩
    (extractSecretHandles configJSON)

/-- The deployment must exist: `deployment_uuid` is a foreign key. -/
def setCurrentWithDetails (target : Target) (deploymentID : String) (status : DeploymentStatus)
    (statusDesired : DeploymentStatus) (performedAt now : Nat) : Option DeploymentDB :=
  (db.deployments.lookup deploymentID).map fun deployment =>
    let row : StatusRow :=
      { deploymentUUID := deploymentID, status := status, statusDesired := statusDesired
        performedAt := performedAt, statusReason := "", updatedAt := now }
    { db with deploymentStatus := db.deploymentStatus.insert target row }.upsertDeploymentSecretRefs
      target
      (if status = DeploymentStatus.deployed then extractSecretHandles deployment.content else [])

/-- The current row, if its `performed_at` is the given one and its status is allowed; an
empty list allows every status. -/
def guardedRow (target : Target) (performedAt : Nat)
    (requireCurrentStatus : List DeploymentStatus) : Option StatusRow :=
  (db.deploymentStatus.lookup target).filter fun row =>
    decide (row.performedAt = performedAt) &&
      (requireCurrentStatus.isEmpty || decide (row.status ∈ requireCurrentStatus))

def updateStatusWithPerformedAtGuard (target : Target) (newStatus : DeploymentStatus)
    (statusReason : String) (performedAt : Nat) (requireCurrentStatus : List DeploymentStatus)
    (now : Nat) : DeploymentDB :=
  match db.guardedRow target performedAt requireCurrentStatus with
  | none => db
  | some row =>
    { db with
      deploymentStatus := db.deploymentStatus.insert target
        { row with status := newStatus, statusReason := statusReason, updatedAt := now } }

def deleteDeployment (deploymentID : String) : DeploymentDB :=
  { db with
    deployments := db.deployments.erase deploymentID
    deploymentStatus := eraseAll db.deploymentStatus
      (db.deploymentStatus.keys.filter fun target =>
        ((db.deploymentStatus.lookup target).any (·.deploymentUUID = deploymentID))) }

def archivedOf (target : Target) : List Deployment :=
  (db.deploymentsOf target).filter fun deployment =>
    !(db.deploymentStatus.lookup target).any (·.deploymentUUID = deployment.deploymentID)

def oldestArchived (target : Target) : List Deployment :=
  ((db.archivedOf target).mergeSort fun first second =>
    decide (first.createdAt ≤ second.createdAt)).take 5

/-- The deployments that are deleted before a new one is stored. -/
def victims (target : Target) (hardLimit : Nat) : List Deployment :=
  if hardLimit ≤ (db.deploymentsOf target).length then db.oldestArchived target else []

def enforceLimit (target : Target) (hardLimit : Nat) : DeploymentDB :=
  (db.victims target hardLimit).foldl (fun db victim => db.deleteDeployment victim.deploymentID) db

def createdRow (deployment : Deployment) (status : DeploymentStatus) (now : Nat) : StatusRow where
  deploymentUUID := deployment.deploymentID
  status := status
  statusDesired := status
  performedAt := now
  statusReason := ""
  updatedAt := now

def insertDeployment (deployment : Deployment) (status : DeploymentStatus) (now : Nat) :
    DeploymentDB :=
  { db with
    deployments := db.deployments.insert deployment.deploymentID deployment
    deploymentStatus := db.deploymentStatus.insert deployment.target
      (createdRow deployment status now) }

def createWithLimitEnforcement (deployment : Deployment) (status : DeploymentStatus)
    (hardLimit now : Nat) : Option DeploymentDB :=
  match db.deployments.lookup deployment.deploymentID with
  | some _ => none
  | none =>
    some ((db.enforceLimit deployment.target hardLimit).insertDeployment deployment status now)

def createSecret (handle : String) : Option DeploymentDB :=
  match db.secrets.lookup handle with
  | some _ => none
  | none => some { db with secrets := db.secrets.insert handle .active }

def findRefsAndSoftDelete (handle : String) : Option DeploymentDB :=
  match db.secrets.lookup handle with
  | none => none
  | some _ =>
    if db.secretRefs.any (·.secretHandle = handle) then some db
    else some { db with secrets := db.secrets.insert handle .deprecated }

end DeploymentDB

/-! ## Operations and acknowledgements -/

structure DeploymentConfig where
  transitionalStatusEnabled : Bool
  hardLimit : Nat
  timeout : Nat

inductive DeploymentAction where
  | deploy
  | undeploy
  deriving DecidableEq

def DeploymentConfig.initialStatus (config : DeploymentConfig) :
    DeploymentAction → DeploymentStatus
  | .deploy => if config.transitionalStatusEnabled then .deploying else .deployed
  | .undeploy => if config.transitionalStatusEnabled then .undeploying else .undeployed

def DeploymentAction.finalStatus : DeploymentAction → DeploymentStatus
  | .deploy => .deployed
  | .undeploy => .undeployed

def DeploymentAction.transitionalStatus : DeploymentAction → DeploymentStatus
  | .deploy => .deploying
  | .undeploy => .undeploying

/-- An operation that the gateway is told about; `number` is not sent, it tells which write
of a status row the operation made. -/
structure Operation where
  target : Target
  deploymentID : String
  action : DeploymentAction
  performedAt : Nat
  number : Nat
  deriving DecidableEq

inductive AckStatus where
  | success
  | failed (errorCode : String)
  deriving DecidableEq

/-- The acknowledgement of an operation, with the fields that the gateway was sent. -/
def handleDeploymentAck (db : DeploymentDB) (operation : Operation) (status : AckStatus)
    (now : Nat) : DeploymentDB :=
  match status with
  | .failed errorCode =>
    db.updateStatusWithPerformedAtGuard operation.target .failed errorCode
      operation.performedAt [] now
  | .success =>
    db.updateStatusWithPerformedAtGuard operation.target operation.action.finalStatus ""
      operation.performedAt [operation.action.transitionalStatus] now

structure StaleDeploymentStatus where
  target : Target
  status : DeploymentStatus
  performedAt : Nat
  number : Nat
  deriving DecidableEq

def deploymentErrorTimeout : String := "DEPLOYMENT_TIMEOUT"

/-! ## The system -/

structure System where
  db : DeploymentDB
  now : Nat
  announced : List Operation
  unfinished : List Deployment
  stale : List StaleDeploymentStatus
  issued : List String
  /-- How often operations have written a status row, and the last time for each target. -/
  writes : Nat
  lastWrite : GoMap Target Nat

inductive Event where
  | tick (elapsed : Nat)
  | createDeployment (deployment : Deployment)
  | setDeployed (deployment : Deployment)
  | restore (target : Target) (deploymentID : String)
  | undeploy (target : Target) (deploymentID : String)
  | ack (operation : Operation) (status : AckStatus)
  | readStale
  | resolveStale (entry : StaleDeploymentStatus)
  | importPush (deployment : Deployment) (status : DeploymentStatus)
  | importUndeploy (target : Target)
  | saveArtifact (artifactUUID configJSON : String)
  | createSecret (handle : String)
  | softDelete (handle : String)
  deriving DecidableEq

namespace System

def start : System where
  db := DeploymentDB.empty
  now := 0
  announced := []
  unfinished := []
  stale := []
  issued := []
  writes := 0
  lastWrite := ∅

variable (config : DeploymentConfig) (system : System)

def recordWrite (target : Target) (db : DeploymentDB) : System :=
  { system with
    db := db
    writes := system.writes + 1
    lastWrite := system.lastWrite.insert target system.writes }

/-- A deployment with a new id to a gateway; `none` when it cannot be created. -/
def create (deployment : Deployment) (status : DeploymentStatus) : Option System :=
  if deployment.deploymentID ∈ system.issued ∨
      deployment.target.gatewayID = DeploymentDB.artifactLevelGatewayID then none
  else
    (system.db.createWithLimitEnforcement deployment status config.hardLimit system.now).map
      fun db =>
        { system.recordWrite deployment.target db with
          issued := deployment.deploymentID :: system.issued }

def operation (target : Target) (deploymentID : String) (action : DeploymentAction) :
    Operation where
  target := target
  deploymentID := deploymentID
  action := action
  performedAt := system.now
  number := system.writes

/-- The row is written and the gateway is told; `none` when the row cannot be written. -/
def announce (target : Target) (deploymentID : String) (action : DeploymentAction) :
    Option System :=
  (system.db.setCurrentWithDetails target deploymentID (config.initialStatus action)
      action.finalStatus system.now system.now).map fun db =>
    { system.recordWrite target db with
      announced := system.announced ++ [system.operation target deploymentID action] }

/-- The gateway is told although no row was written: a deploy request only logs the error. -/
def announceUnwritten (target : Target) (deploymentID : String) (action : DeploymentAction) :
    System :=
  { system with
    writes := system.writes + 1
    announced := system.announced ++ [system.operation target deploymentID action] }

/-- The deployment is the current one of the target, in the given status. -/
def isCurrent (target : Target) (deploymentID : String) (status : DeploymentStatus) : Bool :=
  (system.db.deploymentStatus.lookup target).any fun row =>
    decide (row.deploymentUUID = deploymentID ∧ row.status = status)

def belongs (target : Target) (deploymentID : String) : Bool :=
  (system.db.deployments.lookup deploymentID).any (·.target = target)

def staleStatuses : List StaleDeploymentStatus :=
  system.db.deploymentStatus.entries.filterMap fun entry =>
    if (entry.2.status = .deploying ∨ entry.2.status = .undeploying) ∧
        entry.2.performedAt + config.timeout < system.now then
      some
        { target := entry.1, status := entry.2.status, performedAt := entry.2.performedAt
          number := (system.lastWrite.lookup entry.1).getD 0 }
    else none

def step (event : Event) : System :=
  match event with
  | .tick elapsed => { system with now := system.now + elapsed }
  | .createDeployment deployment =>
    match system.create config deployment .deployed with
    | none => system
    | some system => { system with unfinished := system.unfinished ++ [deployment] }
  | .setDeployed deployment =>
    if deployment ∈ system.unfinished then
      let system := { system with unfinished := system.unfinished.erase deployment }
      (system.announce config deployment.target deployment.deploymentID .deploy).getD
        (system.announceUnwritten deployment.target deployment.deploymentID .deploy)
    else system
  | .restore target deploymentID =>
    if system.belongs target deploymentID = true ∧
        system.isCurrent target deploymentID .deployed = false then
      (system.announce config target deploymentID .deploy).getD system
    else system
  | .undeploy target deploymentID =>
    if system.belongs target deploymentID = true ∧
        system.isCurrent target deploymentID .deployed = true then
      (system.announce config target deploymentID .undeploy).getD system
    else system
  | .ack operation status =>
    if operation ∈ system.announced then
      { system with db := handleDeploymentAck system.db operation status system.now }
    else system
  | .readStale => { system with stale := system.staleStatuses config }
  | .resolveStale entry =>
    if entry ∈ system.stale then
      { system with
        db := system.db.updateStatusWithPerformedAtGuard entry.target .failed
          deploymentErrorTimeout entry.performedAt [entry.status] system.now }
    else system
  | .importPush deployment status =>
    (system.create config deployment status).getD system
  | .importUndeploy target =>
    match system.db.deploymentStatus.lookup target with
    | none => system
    | some row =>
      if row.status = .undeployed then system
      else
        match system.db.setCurrentWithDetails target row.deploymentUUID .undeployed
            .undeployed system.now system.now with
        | none => system
        | some db => system.recordWrite target db
  | .saveArtifact artifactUUID configJSON =>
    { system with db := system.db.upsertArtifactSecretRefs artifactUUID configJSON }
  | .createSecret handle =>
    match system.db.createSecret handle with
    | none => system
    | some db => { system with db := db }
  | .softDelete handle =>
    match system.db.findRefsAndSoftDelete handle with
    | none => system
    | some db => { system with db := db }

end System

/-! ## What the repository functions change -/

namespace DeploymentDB

variable {db next : DeploymentDB}

def Keyed (db : DeploymentDB) : Prop :=
  ∀ id deployment, db.deployments.lookup id = some deployment → deployment.deploymentID = id

def Homed (db : DeploymentDB) : Prop :=
  ∀ target row, db.deploymentStatus.lookup target = some row →
    ∃ deployment, db.deployments.lookup row.deploymentUUID = some deployment ∧
      deployment.target = target

structure Current (db next : DeploymentDB) (target : Target) (deployment : Deployment)
    (row : StatusRow) : Prop where
  stored : db.deployments.lookup row.deploymentUUID = some deployment
  deployments : next.deployments = db.deployments
  status : next.deploymentStatus = db.deploymentStatus.insert target row
  refs : next.secretRefs = (db.upsertDeploymentSecretRefs target
    (if row.status = DeploymentStatus.deployed then extractSecretHandles deployment.content
      else [])).secretRefs
  secrets : next.secrets = db.secrets

variable {target : Target}

theorem Current.row_cases {deployment : Deployment} {row found : StatusRow} {other : Target}
    (hcurrent : Current db next target deployment row)
    (hfound : next.deploymentStatus.lookup other = some found) :
    other = target ∧ row = found ∨
      other ≠ target ∧ db.deploymentStatus.lookup other = some found :=
  lookup_insert_eq_some_iff.mp (hcurrent.status ▸ hfound)

variable {status : DeploymentStatus}

theorem current_of_setCurrentWithDetails {statusDesired : DeploymentStatus}
    (hset : db.setCurrentWithDetails target deploymentID status statusDesired performedAt now =
      some next) :
    ∃ deployment row, Current db next target deployment row ∧
      row.deploymentUUID = deploymentID ∧ row.status = status ∧ row.performedAt = performedAt := by
  obtain ⟨deployment, hlookup, rfl⟩ := Option.map_eq_some_iff.mp hset
  exact ⟨deployment, ⟨deploymentID, status, statusDesired, performedAt, "", now⟩,
    ⟨hlookup, rfl, rfl, rfl, rfl⟩, rfl, rfl, rfl⟩

variable {deployment : Deployment}

theorem lookup_of_mem_allDeployments (hkeyed : db.Keyed) (hmem : deployment ∈ db.allDeployments) :
    db.deployments.lookup deployment.deploymentID = some deployment := by
  obtain ⟨⟨id, stored⟩, hentry, rfl⟩ := List.mem_map.mp hmem
  have hlookup : db.deployments.lookup id = some stored := AList.mem_lookup_iff.mpr hentry
  rw [hkeyed id stored hlookup]
  exact hlookup

theorem nodup_allDeployments (hkeyed : db.Keyed) : db.allDeployments.Nodup := by
  have hids : db.allDeployments.map (·.deploymentID) = db.deployments.keys := by
    rw [allDeployments, List.map_map]
    refine List.map_congr_left fun entry hentry => ?_
    exact hkeyed entry.1 entry.2 (AList.mem_lookup_iff.mpr hentry)
  exact List.Nodup.of_map (·.deploymentID) (hids ▸ db.deployments.nodupKeys)

theorem mem_deploymentsOf (hkeyed : db.Keyed) :
    deployment ∈ db.deploymentsOf target ↔
      db.deployments.lookup deployment.deploymentID = some deployment ∧
        deployment.target = target := by
  rw [deploymentsOf, List.mem_filter, decide_eq_true_eq]
  refine and_congr_left fun _ => ⟨lookup_of_mem_allDeployments hkeyed, fun hlookup => ?_⟩
  exact List.mem_map.mpr ⟨⟨_, deployment⟩, AList.mem_lookup_iff.mp hlookup, rfl⟩

theorem stored_of_mem_archivedOf (hkeyed : db.Keyed) (hmem : deployment ∈ db.archivedOf target) :
    db.deployments.lookup deployment.deploymentID = some deployment ∧
      deployment.target = target :=
  (mem_deploymentsOf hkeyed).mp (List.mem_of_mem_filter hmem)

theorem mem_archivedOf_of_oldest (hmem : deployment ∈ db.oldestArchived target) :
    deployment ∈ db.archivedOf target :=
  List.mem_mergeSort.mp (List.mem_of_mem_take hmem)

theorem mem_victims :
    deployment ∈ db.victims target hardLimit ↔
      hardLimit ≤ (db.deploymentsOf target).length ∧ deployment ∈ db.oldestArchived target := by
  unfold victims
  split <;> simp_all

variable {row : StatusRow}

theorem not_current_of_mem_archivedOf {other : Target} (hkeyed : db.Keyed) (hhomed : db.Homed)
    (hmem : deployment ∈ db.archivedOf target)
    (hrow : db.deploymentStatus.lookup other = some row) :
    row.deploymentUUID ≠ deployment.deploymentID := by
  intro hsame
  obtain ⟨hlookup, rfl⟩ := stored_of_mem_archivedOf hkeyed hmem
  obtain ⟨stored, hstored, hhome⟩ := hhomed other row hrow
  rw [hsame, hlookup] at hstored
  cases hstored
  have harchived := (List.mem_filter.mp hmem).2
  rw [hhome, hrow] at harchived
  simp [hsame] at harchived

structure Trimmed (db next : DeploymentDB) : Prop where
  status : next.deploymentStatus = db.deploymentStatus
  refs : next.secretRefs = db.secretRefs
  secrets : next.secrets = db.secrets
  stored : ∀ id deployment, next.deployments.lookup id = some deployment →
    db.deployments.lookup id = some deployment
  current : ∀ target row, db.deploymentStatus.lookup target = some row →
    next.deployments.lookup row.deploymentUUID = db.deployments.lookup row.deploymentUUID

theorem Trimmed.refl (db : DeploymentDB) : Trimmed db db :=
  ⟨rfl, rfl, rfl, fun _ _ hlookup => hlookup, fun _ _ _ => rfl⟩

theorem Trimmed.deleteDeployment (htrimmed : Trimmed db next) (hkeyed : db.Keyed)
    (hhomed : db.Homed) (hmem : deployment ∈ db.archivedOf target) :
    Trimmed db (next.deleteDeployment deployment.deploymentID) := by
  have hnone : (next.deploymentStatus.keys.filter fun other =>
      (next.deploymentStatus.lookup other).any
        (·.deploymentUUID = deployment.deploymentID)) = [] := by
    rw [List.filter_eq_nil_iff]
    intro other _ hany
    obtain ⟨row, hrow, hsame⟩ := (Option.any_eq_true _ _).mp hany
    rw [htrimmed.status] at hrow
    exact not_current_of_mem_archivedOf hkeyed hhomed hmem hrow (of_decide_eq_true hsame)
  constructor
  · rw [DeploymentDB.deleteDeployment, hnone]
    exact htrimmed.status
  · exact htrimmed.refs
  · exact htrimmed.secrets
  · intro id stored hlookup
    exact htrimmed.stored id stored (lookup_erase_eq_some_iff.mp hlookup).2
  · intro other row hrow
    rw [DeploymentDB.deleteDeployment,
      AList.lookup_erase_ne (not_current_of_mem_archivedOf hkeyed hhomed hmem hrow)]
    exact htrimmed.current other row hrow

theorem trimmed_enforceLimit (hkeyed : db.Keyed) (hhomed : db.Homed) (target : Target)
    (hardLimit : Nat) : Trimmed db (db.enforceLimit target hardLimit) := by
  refine List.foldlRecOn _ _ (Trimmed.refl db) fun next htrimmed deployment hmem => ?_
  exact htrimmed.deleteDeployment hkeyed hhomed (mem_archivedOf_of_oldest (mem_victims.mp hmem).2)

theorem deployments_deleteDeployment :
    (db.deleteDeployment id).deployments = db.deployments.erase id :=
  rfl

theorem lookup_foldl_deleteDeployment {victims : List Deployment} :
    (victims.foldl (fun db victim => db.deleteDeployment victim.deploymentID) db).deployments.lookup
        id =
      if id ∈ victims.map (·.deploymentID) then none else db.deployments.lookup id := by
  induction victims generalizing db with
  | nil => simp
  | cons victim rest ih =>
    rw [List.foldl_cons, ih, deployments_deleteDeployment]
    by_cases hid : id = victim.deploymentID
    · subst hid
      simp
    · simp [hid, AList.lookup_erase_ne hid]

theorem lookup_enforceLimit :
    (db.enforceLimit target hardLimit).deployments.lookup id =
      if hardLimit ≤ (db.deploymentsOf target).length ∧
          id ∈ (db.oldestArchived target).map (·.deploymentID) then none
      else db.deployments.lookup id := by
  rw [enforceLimit, lookup_foldl_deleteDeployment]
  simp only [List.mem_map, mem_victims, and_assoc, exists_and_left]

structure Created (db next : DeploymentDB) (deployment : Deployment) (row : StatusRow) : Prop where
  status : next.deploymentStatus = db.deploymentStatus.insert deployment.target row
  refs : next.secretRefs = db.secretRefs
  secrets : next.secrets = db.secrets
  new : next.deployments.lookup deployment.deploymentID = some deployment
  stored : ∀ id stored, id ≠ deployment.deploymentID →
    next.deployments.lookup id = some stored → db.deployments.lookup id = some stored
  current : ∀ target found, db.deploymentStatus.lookup target = some found →
    found.deploymentUUID ≠ deployment.deploymentID →
    next.deployments.lookup found.deploymentUUID = db.deployments.lookup found.deploymentUUID

theorem Created.stored_cases {stored : Deployment} (hcreated : Created db next deployment row)
    (hstored : next.deployments.lookup id = some stored) :
    id = deployment.deploymentID ∧ stored = deployment ∨
      db.deployments.lookup id = some stored := by
  by_cases hid : id = deployment.deploymentID
  · subst hid
    exact .inl ⟨rfl, Option.some.inj (hstored.symm.trans hcreated.new)⟩
  · exact .inr (hcreated.stored id stored hid hstored)

theorem Created.row_cases {found : StatusRow} (hcreated : Created db next deployment row)
    (hfound : next.deploymentStatus.lookup target = some found) :
    target = deployment.target ∧ row = found ∨
      target ≠ deployment.target ∧ db.deploymentStatus.lookup target = some found :=
  lookup_insert_eq_some_iff.mp (hcreated.status ▸ hfound)

theorem created_of_createWithLimitEnforcement
    (hcreate : db.createWithLimitEnforcement deployment status hardLimit now = some next)
    (hkeyed : db.Keyed) (hhomed : db.Homed) :
    Created db next deployment (createdRow deployment status now) := by
  unfold createWithLimitEnforcement at hcreate
  split at hcreate
  · cases hcreate
  · cases hcreate
    have htrimmed := trimmed_enforceLimit hkeyed hhomed deployment.target hardLimit
    refine ⟨?_, htrimmed.refs, htrimmed.secrets, AList.lookup_insert _, ?_, ?_⟩
    · exact congrArg (AList.insert deployment.target (createdRow deployment status now))
        htrimmed.status
    · intro id stored hid hstored
      rw [insertDeployment, AList.lookup_insert_ne hid] at hstored
      exact htrimmed.stored id stored hstored
    · intro target found hfound hid
      rw [insertDeployment, AList.lookup_insert_ne hid]
      exact htrimmed.current target found hfound

theorem length_deploymentsOf_le (hkeyed : db.Keyed) :
    (db.deploymentsOf target).length ≤ (db.archivedOf target).length + 1 := by
  have hnodup : (db.deploymentsOf target).Nodup := (nodup_allDeployments hkeyed).filter _
  rw [List.length_eq_length_filter_add fun deployment =>
    !(db.deploymentStatus.lookup target).any (·.deploymentUUID = deployment.deploymentID)]
  refine Nat.add_le_add_left ?_ _
  cases hrow : db.deploymentStatus.lookup target with
  | none => simp
  | some row =>
    simp only [Option.any_some, Bool.not_not]
    cases hstored : db.deployments.lookup row.deploymentUUID with
    | none =>
      rw [List.filter_eq_nil_iff.mpr]
      · exact Nat.zero_le 1
      · intro deployment hmem hcurrent
        rw [of_decide_eq_true hcurrent, ((mem_deploymentsOf hkeyed).mp hmem).1] at hstored
        cases hstored
    | some current =>
      have hsubset : (db.deploymentsOf target).filter
          (fun deployment => row.deploymentUUID = deployment.deploymentID) ⊆ [current] := by
        intro deployment hmem
        obtain ⟨hmem, hcurrent⟩ := List.mem_filter.mp hmem
        rw [of_decide_eq_true hcurrent, ((mem_deploymentsOf hkeyed).mp hmem).1] at hstored
        exact List.mem_singleton.mpr (Option.some.inj hstored)
      exact (List.subperm_of_subset (hnodup.filter _) hsubset).length_le

theorem guardedRow_eq_some_iff {required : List DeploymentStatus} :
    db.guardedRow target performedAt required = some row ↔
      db.deploymentStatus.lookup target = some row ∧ row.performedAt = performedAt ∧
        (required = [] ∨ row.status ∈ required) := by
  rw [guardedRow, Option.filter_eq_some_iff]
  simp

end DeploymentDB

/-! ## Well-formed systems -/

structure System.WellFormed (system : System) : Prop where
  keyed : system.db.Keyed
  homed : system.db.Homed
  gateways : ∀ id deployment, system.db.deployments.lookup id = some deployment →
    deployment.target.gatewayID ≠ DeploymentDB.artifactLevelGatewayID
  issued : ∀ id deployment, system.db.deployments.lookup id = some deployment →
    id ∈ system.issued
  unfinished : ∀ deployment ∈ system.unfinished, deployment.deploymentID ∈ system.issued ∧
    ∀ stored, system.db.deployments.lookup deployment.deploymentID = some stored →
      stored = deployment

theorem System.wellFormed_start : System.start.WellFormed := by
  refine ⟨?_, ?_, ?_, ?_, fun _ hmem => absurd hmem List.not_mem_nil⟩
  all_goals
    intro _ _ hlookup
    exact absurd hlookup (by simp [System.start, DeploymentDB.empty])

/-! ## What a step can do -/

def Event.creates : Event → Option (Deployment × DeploymentStatus)
  | .createDeployment deployment => some (deployment, .deployed)
  | .importPush deployment status => some (deployment, status)
  | _ => none

def Event.begins : Event → List Deployment
  | .createDeployment deployment => [deployment]
  | _ => []

def Event.announces : Event → Option Target
  | .setDeployed deployment => some deployment.target
  | .restore target _ => some target
  | .undeploy target _ => some target
  | _ => none

variable {event : Event}

theorem Event.begins_subset {deployment : Deployment} {status : DeploymentStatus}
    {rest : List Deployment} (hcreates : event.creates = some (deployment, status)) :
    event.begins ⊆ deployment :: rest := by
  cases event <;> simp_all [creates, begins]

inductive System.Transition (config : DeploymentConfig) (system : System) :
    Event → System → Prop where
  | refused (event : Event) : Transition config system event system
  | ticked (elapsed : Nat) :
      Transition config system (.tick elapsed) { system with now := system.now + elapsed }
  | created {event : Event} {deployment : Deployment} {status : DeploymentStatus}
      {db : DeploymentDB} {unfinished : List Deployment}
      (hevent : event.creates = some (deployment, status))
      (hfresh : deployment.deploymentID ∉ system.issued)
      (hgateway : deployment.target.gatewayID ≠ DeploymentDB.artifactLevelGatewayID)
      (hcreated : system.db.Created db deployment
        (DeploymentDB.createdRow deployment status system.now))
      (hunfinished : unfinished = system.unfinished ++ event.begins) :
      Transition config system event
        { system.recordWrite deployment.target db with
          issued := deployment.deploymentID :: system.issued
          unfinished := unfinished }
  | announced {event : Event} {target : Target} {deployment : Deployment} {row : StatusRow}
      {action : DeploymentAction} {db : DeploymentDB} {unfinished : List Deployment}
      (hevent : event.announces = some target)
      (hcurrent : system.db.Current db target deployment row)
      (hhome : deployment.target = target)
      (hstatus : row.status = config.initialStatus action)
      (hperformedAt : row.performedAt = system.now)
      (hunfinished : unfinished ⊆ system.unfinished)
      (hfinished : ∀ pending ∈ system.unfinished, pending ∈ unfinished ∨ pending = deployment) :
      Transition config system event
        { system.recordWrite target db with
          announced := system.announced ++ [system.operation target row.deploymentUUID action]
          unfinished := unfinished }
  | unwritten {deployment : Deployment} (hmem : deployment ∈ system.unfinished)
      (hmissing : system.db.deployments.lookup deployment.deploymentID = none) :
      Transition config system (.setDeployed deployment)
        { system with
          unfinished := system.unfinished.erase deployment
          writes := system.writes + 1
          announced := system.announced ++
            [system.operation deployment.target deployment.deploymentID .deploy] }
  | acknowledged {operation : Operation} (status : AckStatus)
      (hannounced : operation ∈ system.announced) :
      Transition config system (.ack operation status)
        { system with db := handleDeploymentAck system.db operation status system.now }
  | read :
      Transition config system .readStale { system with stale := system.staleStatuses config }
  | resolved {entry : StaleDeploymentStatus} (hstale : entry ∈ system.stale) :
      Transition config system (.resolveStale entry)
        { system with
          db := system.db.updateStatusWithPerformedAtGuard entry.target .failed
            deploymentErrorTimeout entry.performedAt [entry.status] system.now }
  | undeployed {target : Target} {deployment : Deployment} {row : StatusRow} {db : DeploymentDB}
      (hcurrent : system.db.Current db target deployment row)
      (hhome : deployment.target = target)
      (hstatus : row.status = .undeployed)
      (hperformedAt : row.performedAt = system.now) :
      Transition config system (.importUndeploy target) (system.recordWrite target db)
  | saved (artifactUUID configJSON : String) :
      Transition config system (.saveArtifact artifactUUID configJSON)
        { system with db := system.db.upsertArtifactSecretRefs artifactUUID configJSON }
  | secretCreated (handle : String) :
      Transition config system (.createSecret handle)
        { system with
          db := { system.db with secrets := system.db.secrets.insert handle .active } }
  | deprecated {handle : String}
    (hunused : ∀ ref ∈ system.db.secretRefs, ref.secretHandle ≠ handle) :
      Transition config system (.softDelete handle)
        { system with
          db := { system.db with secrets := system.db.secrets.insert handle .deprecated } }

namespace System

variable {config : DeploymentConfig} {system next : System}

theorem WellFormed.create_transition {deployment : Deployment} {status : DeploymentStatus}
    (hsystem : system.WellFormed) (hevent : event.creates = some (deployment, status))
    (hcreate : system.create config deployment status = some next) :
    system.Transition config event
      { next with unfinished := next.unfinished ++ event.begins } := by
  unfold System.create at hcreate
  split at hcreate
  · cases hcreate
  · next hnot =>
      obtain ⟨hfresh, hgateway⟩ := not_or.mp hnot
      obtain ⟨db, hdb, rfl⟩ := Option.map_eq_some_iff.mp hcreate
      exact .created hevent hfresh hgateway
        (DeploymentDB.created_of_createWithLimitEnforcement hdb hsystem.keyed hsystem.homed) rfl

variable {unfinished : List Deployment}

variable {action : DeploymentAction}

theorem announce_transition {target : Target} (hevent : event.announces = some target)
    (hhome : ∀ stored, system.db.deployments.lookup deploymentID = some stored →
      stored.target = target ∧
        ∀ pending ∈ system.unfinished, pending ∈ unfinished ∨ pending = stored)
    (hunfinished : unfinished ⊆ system.unfinished)
    (hannounce : { system with unfinished := unfinished }.announce config target deploymentID
      action = some next) : system.Transition config event next := by
  obtain ⟨db, hset, rfl⟩ := Option.map_eq_some_iff.mp hannounce
  obtain ⟨stored, row, hcurrent, rfl, hstatus, hperformedAt⟩ :=
    DeploymentDB.current_of_setCurrentWithDetails hset
  obtain ⟨htarget, hfinished⟩ := hhome stored hcurrent.stored
  exact .announced hevent hcurrent htarget hstatus hperformedAt hunfinished hfinished

theorem setDeployed_transition (hsystem : system.WellFormed) (deployment : Deployment) :
    system.Transition config (.setDeployed deployment)
      (system.step config (.setDeployed deployment)) := by
  simp only [step]
  split
  · next hmem =>
      cases hannounce : { system with
          unfinished := system.unfinished.erase deployment }.announce config deployment.target
          deployment.deploymentID .deploy with
      | none =>
        exact .unwritten hmem (Option.map_eq_none_iff.mp (Option.map_eq_none_iff.mp hannounce))
      | some next =>
        refine announce_transition rfl ?_ List.erase_subset hannounce
        intro stored hstored
        obtain rfl := (hsystem.unfinished deployment hmem).2 stored hstored
        refine ⟨rfl, fun pending hpending => ?_⟩
        exact (eq_or_ne pending stored).symm.imp_left fun hne =>
          (List.mem_erase_of_ne hne).mpr hpending
  · exact .refused _

theorem restored_transition {target : Target} (action : DeploymentAction)
    (hevent : event.announces = some target)
    (hbelongs : system.belongs target deploymentID = true) :
    system.Transition config event
      ((system.announce config target deploymentID action).getD system) := by
  cases hannounce : system.announce config target deploymentID action with
  | none => exact .refused event
  | some next =>
    refine announce_transition hevent ?_ (List.Subset.refl _) hannounce
    refine fun stored hstored => ⟨?_, fun _ => .inl⟩
    rw [belongs, hstored] at hbelongs
    exact of_decide_eq_true hbelongs

theorem importUndeploy_transition (hsystem : system.WellFormed) (target : Target) :
    system.Transition config (.importUndeploy target)
      (system.step config (.importUndeploy target)) := by
  simp only [step]
  split
  · exact .refused _
  · next row hrow =>
      split
      · exact .refused _
      · split
        · exact .refused _
        · next db hset =>
            obtain ⟨stored, written, hcurrent, hid, hstatus, hperformedAt⟩ :=
              DeploymentDB.current_of_setCurrentWithDetails hset
            obtain ⟨deployment, hdeployment, hhome⟩ := hsystem.homed target row hrow
            rw [← hid, hcurrent.stored] at hdeployment
            cases hdeployment
            exact .undeployed hcurrent hhome hstatus hperformedAt

theorem createSecret_transition (handle : String) :
    system.Transition config (.createSecret handle)
      (system.step config (.createSecret handle)) := by
  simp only [step, DeploymentDB.createSecret]
  cases system.db.secrets.lookup handle with
  | none => exact .secretCreated handle
  | some status => exact .refused _

theorem softDelete_transition (handle : String) :
    system.Transition config (.softDelete handle) (system.step config (.softDelete handle)) := by
  simp only [step, DeploymentDB.findRefsAndSoftDelete]
  cases system.db.secrets.lookup handle with
  | none => exact .refused _
  | some status =>
    by_cases hused : system.db.secretRefs.any (·.secretHandle = handle) = true
    · rw [if_pos hused]
      exact .refused _
    · rw [if_neg hused]
      refine .deprecated fun ref href hhandle => hused ?_
      exact List.any_eq_true.mpr ⟨ref, href, decide_eq_true hhandle⟩

section

variable (hsystem : system.WellFormed)
include hsystem

theorem step_transition (event : Event) :
    system.Transition config event (system.step config event) := by
  cases event with
  | tick elapsed => exact .ticked elapsed
  | createDeployment deployment =>
    simp only [step]
    split
    · exact .refused _
    · next next hcreate => exact hsystem.create_transition rfl hcreate
  | setDeployed deployment => exact setDeployed_transition hsystem deployment
  | restore target deploymentID =>
    simp only [step]
    split
    · next hguard => exact restored_transition .deploy rfl hguard.1
    · exact .refused _
  | undeploy target deploymentID =>
    simp only [step]
    split
    · next hguard => exact restored_transition .undeploy rfl hguard.1
    · exact .refused _
  | ack operation status =>
    simp only [step]
    split
    · next hannounced => exact .acknowledged status hannounced
    · exact .refused _
  | readStale => exact .read
  | resolveStale entry =>
    simp only [step]
    split
    · next hstale => exact .resolved hstale
    · exact .refused _
  | importPush deployment status =>
    simp only [step]
    cases hcreate : system.create config deployment status with
    | none => exact .refused _
    | some next =>
      have hevent : (Event.importPush deployment status).creates = some (deployment, status) :=
        rfl
      simpa [Event.begins] using hsystem.create_transition hevent hcreate
  | importUndeploy target => exact importUndeploy_transition hsystem target
  | saveArtifact artifactUUID configJSON => exact .saved artifactUUID configJSON
  | createSecret handle => exact createSecret_transition handle
  | softDelete handle => exact softDelete_transition handle

theorem WellFormed.update (target : Target) (newStatus : DeploymentStatus) (reason : String)
    (performedAt : Nat) (required : List DeploymentStatus) :
    { system with
      db := system.db.updateStatusWithPerformedAtGuard target newStatus reason performedAt
        required system.now }.WellFormed := by
  unfold DeploymentDB.updateStatusWithPerformedAtGuard
  split
  · exact hsystem
  · next row hrow =>
      refine ⟨hsystem.keyed, ?_, hsystem.gateways, hsystem.issued, hsystem.unfinished⟩
      intro other found hfound
      rcases lookup_insert_eq_some_iff.mp hfound with ⟨rfl, rfl⟩ | ⟨-, hfound⟩
      · exact hsystem.homed other row (DeploymentDB.guardedRow_eq_some_iff.mp hrow).1
      · exact hsystem.homed other found hfound

theorem WellFormed.recordWrite {target : Target} {row : StatusRow} {deployment : Deployment}
    {db : DeploymentDB} (hcurrent : system.db.Current db target deployment row)
    (hhome : deployment.target = target) (hunfinished : unfinished ⊆ system.unfinished) :
    { system.recordWrite target db with unfinished := unfinished }.WellFormed := by
  have hdeployments : (system.recordWrite target db).db.deployments = system.db.deployments :=
    hcurrent.deployments
  refine ⟨?_, ?_, ?_, ?_, ?_⟩
  · intro id stored hstored
    exact hsystem.keyed id stored (hdeployments ▸ hstored)
  · intro other found hfound
    rw [hdeployments]
    rcases hcurrent.row_cases hfound with ⟨rfl, rfl⟩ | ⟨-, hfound⟩
    · exact ⟨deployment, hcurrent.stored, hhome⟩
    · exact hsystem.homed other found hfound
  · intro id stored hstored
    exact hsystem.gateways id stored (hdeployments ▸ hstored)
  · intro id stored hstored
    exact hsystem.issued id stored (hdeployments ▸ hstored)
  · intro pending hpending
    have hpending := hsystem.unfinished pending (hunfinished hpending)
    exact ⟨hpending.1, fun stored hstored => hpending.2 stored (hdeployments ▸ hstored)⟩

theorem WellFormed.created {deployment : Deployment} {status : DeploymentStatus} {db : DeploymentDB}
    (hfresh : deployment.deploymentID ∉ system.issued)
    (hgateway : deployment.target.gatewayID ≠ DeploymentDB.artifactLevelGatewayID)
    (hcreated : system.db.Created db deployment
      (DeploymentDB.createdRow deployment status system.now))
    (hunfinished : unfinished ⊆ deployment :: system.unfinished) :
    { system.recordWrite deployment.target db with
      issued := deployment.deploymentID :: system.issued
      unfinished := unfinished }.WellFormed := by
  refine ⟨?_, ?_, ?_, ?_, ?_⟩
  · intro id stored hstored
    rcases hcreated.stored_cases hstored with ⟨rfl, rfl⟩ | hstored
    · rfl
    · exact hsystem.keyed id stored hstored
  · intro other found hfound
    rcases hcreated.row_cases hfound with ⟨rfl, rfl⟩ | ⟨-, hfound⟩
    · exact ⟨deployment, hcreated.new, rfl⟩
    · obtain ⟨stored, hstored, hhome⟩ := hsystem.homed other found hfound
      have hne : found.deploymentUUID ≠ deployment.deploymentID := by
        intro hsame
        exact hfresh (hsame ▸ hsystem.issued _ _ hstored)
      exact ⟨stored, (hcreated.current other found hfound hne).trans hstored, hhome⟩
  · intro id stored hstored
    rcases hcreated.stored_cases hstored with ⟨rfl, rfl⟩ | hstored
    · exact hgateway
    · exact hsystem.gateways id stored hstored
  · intro id stored hstored
    rcases hcreated.stored_cases hstored with ⟨rfl, rfl⟩ | hstored
    · exact List.mem_cons_self
    · exact List.mem_cons_of_mem _ (hsystem.issued id stored hstored)
  · intro pending hpending
    rcases List.mem_cons.mp (hunfinished hpending) with rfl | hpending
    · refine ⟨List.mem_cons_self, fun stored hstored => ?_⟩
      exact (Option.some.inj (hcreated.new.symm.trans hstored)).symm
    · have hpending := hsystem.unfinished pending hpending
      have hne : pending.deploymentID ≠ deployment.deploymentID :=
        fun hsame => hfresh (hsame ▸ hpending.1)
      exact ⟨List.mem_cons_of_mem _ hpending.1,
        fun stored hstored => hpending.2 stored (hcreated.stored _ stored hne hstored)⟩

theorem WellFormed.transition (htransition : system.Transition config event next) :
    next.WellFormed := by
  obtain ⟨hkeyed, hhomed, hgateways, hissued, hpending⟩ := id hsystem
  cases htransition with
  | refused => exact hsystem
  | created hevent hfresh hgateway hcreated hunfinished =>
    refine hsystem.created hfresh hgateway hcreated ?_
    rw [hunfinished]
    exact List.append_subset.mpr ⟨List.subset_cons_self _ _, Event.begins_subset hevent⟩
  | unwritten _ _ =>
    exact ⟨hkeyed, hhomed, hgateways, hissued,
      fun pending hmem => hpending pending (List.erase_subset hmem)⟩
  | announced _ hcurrent hhome _ _ hunfinished _ =>
    have hwritten := hsystem.recordWrite hcurrent hhome hunfinished
    exact ⟨hwritten.keyed, hwritten.homed, hwritten.gateways, hwritten.issued,
      hwritten.unfinished⟩
  | undeployed hcurrent hhome _ _ =>
    exact hsystem.recordWrite hcurrent hhome (List.Subset.refl _)
  | acknowledged status _ =>
    cases status with
    | success | failed errorCode => exact hsystem.update _ _ _ _ _
  | resolved _ => exact hsystem.update _ _ _ _ _
  | ticked | read | saved | secretCreated | deprecated =>
    exact ⟨hkeyed, hhomed, hgateways, hissued, hpending⟩

theorem WellFormed.step (event : Event) : (system.step config event).WellFormed :=
  hsystem.transition (step_transition hsystem event)

end

end System

/-! ## An API on one gateway -/

def transitional : DeploymentConfig := ⟨true, 120, 60000⟩

def petsOnEdge : Target := ⟨"pets", "edge"⟩

def petsDeployment (deploymentID content : String) : Deployment where
  deploymentID := deploymentID
  target := petsOnEdge
  content := content
  createdAt := 0

end ApiPlatform.PlatformApi
