import ApiPlatform.Foundation.Fallible
import ApiPlatform.Foundation.Selection
import ApiPlatform.PlatformApi.Deployments

/-!
# Artifacts that a gateway pushes

`internal/service/artifact_import.go` for REST APIs of one organisation.  A push
of a gateway-originated artifact rewrites the working copy when its deployment
time is the newest one; the deployment and the status of the gateway are
recorded by every push, also by a stale one.  The project of a push is already
resolved.
-/

namespace ApiPlatform.PlatformApi

open Foundation

/-! ## Requests -/

structure RestAPIConfig where
  transport : List String
  upstream : String
  operations : String
  deriving DecidableEq

structure ArtifactImportConfig where
  name : String
  displayName : String
  version : String
  spec : RestAPIConfig
  yaml : String
  deriving DecidableEq

inductive ImportStatus where
  | deployed
  | pending
  | failed
  | undeployed
  deriving DecidableEq

def mapDeploymentStatus : ImportStatus → DeploymentStatus
  | .deployed => .deployed
  | .pending => .deploying
  | .failed => .failed
  | .undeployed => .undeployed

structure ImportGatewayArtifactRequest where
  configuration : ArtifactImportConfig
  projectID : String
  status : ImportStatus
  deployedAt : Option Nat
  revision : String
  deriving DecidableEq

def importVersion (config : ArtifactImportConfig) : String :=
  if config.version ≠ "" then config.version else "1.0.0"

def importDisplayName (config : ArtifactImportConfig) : String :=
  if config.displayName ≠ "" then config.displayName else config.name

def importedSpec (config : ArtifactImportConfig) : RestAPIConfig :=
  if config.spec.transport.isEmpty then { config.spec with transport := ["http", "https"] }
  else config.spec

/-! ## The decision about the working copy -/

inductive ArtifactOrigin where
  | cp
  | dp
  deriving DecidableEq

def isNewerDeployment (incoming current : Option Nat) : Bool :=
  match incoming, current with
  | none, _ => false
  | some _, none => true
  | some incoming, some current => decide (current < incoming)

inductive MetadataWriteMode where
  | writeFullMetadata
  | writeGatewaySpecificOnly
  | skipWorkingCopy
  deriving DecidableEq

def decideMetadataWrite (isNew : Bool) (origin : ArtifactOrigin)
    (currentDeployedAt incomingDeployedAt : Option Nat) : MetadataWriteMode :=
  if isNew then .writeFullMetadata
  else if origin = .cp then .writeGatewaySpecificOnly
  else if isNewerDeployment incomingDeployedAt currentDeployedAt then .writeFullMetadata
  else .skipWorkingCopy

/-! ## The import -/

def restApiKind : String := "RestApi"

structure RestAPI where
  id : String
  kind : String
  origin : ArtifactOrigin
  name : String
  version : String
  projectID : String
  configuration : RestAPIConfig
  deriving DecidableEq

def ImportGatewayArtifactRequest.workingCopy (request : ImportGatewayArtifactRequest)
    (id : String) : RestAPI where
  id := id
  kind := restApiKind
  origin := .dp
  name := importDisplayName request.configuration
  version := importVersion request.configuration
  projectID := request.projectID
  configuration := importedSpec request.configuration

inductive ImportError where
  | artifactExists (kind : String)
  | maxPerAPIGateway
  | database
  deriving DecidableEq

structure ImportState where
  artifacts : GoMap String RestAPI
  db : DeploymentDB
  generated : Nat

def ImportState.start : ImportState where
  artifacts := ∅
  db := DeploymentDB.empty
  generated := 0

structure ImportConfig where
  maxPerAPIGateway : Nat
  newUUID : Nat → String

def deploymentLimitBuffer : Nat := 100

namespace DeploymentDB

variable (db : DeploymentDB)

def getLatestDeploymentTime (artifactUUID : String) : Option Nat :=
  ((db.allDeployments.filter (·.target.artifactUUID = artifactUUID)).argmax
    (·.createdAt)).map (·.createdAt)

def getLatestDeploymentRevision (target : Target) : String :=
  (((db.deploymentsOf target).argmax (·.createdAt)).map (·.revision)).getD ""

def getCurrentByGateway (target : Target) : Option Deployment :=
  ((db.deploymentStatus.lookup target).filter (·.statusDesired = .deployed)).bind fun row =>
    db.deployments.lookup row.deploymentUUID

end DeploymentDB

section Import

variable (config : ImportConfig) (gatewayID : String)

def resolveAndImport (state : ImportState) (request : ImportGatewayArtifactRequest) :
    Except ImportError (ImportState × String) :=
  let handle := request.configuration.name
  match state.artifacts.lookup handle with
  | none =>
    let id := config.newUUID state.generated
    .ok ({ state with
      artifacts := state.artifacts.insert handle (request.workingCopy id)
      generated := state.generated + 1 }, id)
  | some existing =>
    if existing.kind ≠ restApiKind then .error (.artifactExists existing.kind)
    else
      match decideMetadataWrite false existing.origin
          (state.db.getLatestDeploymentTime existing.id) request.deployedAt with
      | .skipWorkingCopy => .ok (state, existing.id)
      | .writeFullMetadata =>
        .ok ({ state with
          artifacts := state.artifacts.insert handle
            { existing with
              name := importDisplayName request.configuration
              version := importVersion request.configuration
              projectID := request.projectID
              configuration := importedSpec request.configuration } }, existing.id)
      | .writeGatewaySpecificOnly =>
        .ok ({ state with
          artifacts := state.artifacts.insert handle
            { existing with
              configuration := { existing.configuration with
                upstream := (importedSpec request.configuration).upstream } } }, existing.id)

def writeDeployment (state : ImportState) (request : ImportGatewayArtifactRequest)
    (artifactUUID : String) (now : Nat) : Except ImportError ImportState :=
  let target : Target := ⟨artifactUUID, gatewayID⟩
  if request.revision ≠ "" ∧ state.db.getLatestDeploymentRevision target = request.revision then
    .ok state
  else if config.maxPerAPIGateway < 1 then .error .maxPerAPIGateway
  else
    let deployment : Deployment :=
      { deploymentID := config.newUUID state.generated, target := target
        content := request.configuration.yaml, createdAt := request.deployedAt.getD now
        revision := request.revision }
    match state.db.createWithLimitEnforcement deployment (mapDeploymentStatus request.status)
        (config.maxPerAPIGateway + deploymentLimitBuffer) now with
    | none => .error .database
    | some db => .ok { state with db := db, generated := state.generated + 1 }

def handleUndeploy (state : ImportState) (request : ImportGatewayArtifactRequest) (now : Nat) :
    Except ImportError ImportState :=
  match state.artifacts.lookup request.configuration.name with
  | none => .ok state
  | some existing =>
    let target : Target := ⟨existing.id, gatewayID⟩
    match state.db.deploymentStatus.lookup target with
    | none => .ok state
    | some row =>
      if row.status = .undeployed then .ok state
      else
        match state.db.setCurrentWithDetails target row.deploymentUUID .undeployed .undeployed
            now now with
        | none => .error .database
        | some db => .ok { state with db := db }

def importGatewayArtifact (state : ImportState) (request : ImportGatewayArtifactRequest)
    (now : Nat) : Except ImportError ImportState :=
  if request.status = .undeployed then handleUndeploy gatewayID state request now
  else do
    let (state, id) ← resolveAndImport config state request
    writeDeployment config gatewayID state request id now

end Import

/-! ## The newest deployment is kept -/

namespace DeploymentDB

variable {db : DeploymentDB} {target : Target}

theorem lookup_enforceLimit_newest {uuid : String} {newest : Deployment} {hardLimit : Nat}
    (hkeyed : db.Keyed) (hlookup : db.deployments.lookup uuid = some newest)
    (hnewest : ∀ deployment ∈ db.deploymentsOf target, deployment ≠ newest →
      deployment.createdAt < newest.createdAt)
    (hlimit : 6 < hardLimit) :
    (db.enforceLimit target hardLimit).deployments.lookup uuid = some newest := by
  rw [lookup_enforceLimit, if_neg, hlookup]
  rintro ⟨hfull, hvictim⟩
  obtain ⟨deployment, hmem, rfl⟩ := List.mem_map.mp hvictim
  have hlonger : 5 < (db.archivedOf target).length := by
    have hle : (db.deploymentsOf target).length ≤ _ := length_deploymentsOf_le hkeyed
    omega
  have hkept : newest ∉ db.oldestArchived target :=
    not_mem_take_mergeSort (((nodup_allDeployments hkeyed).filter _).filter _)
      (fun deployment hmem => hnewest deployment (List.mem_of_mem_filter hmem)) hlonger
  rw [(stored_of_mem_archivedOf hkeyed (mem_archivedOf_of_oldest hmem)).1] at hlookup
  cases hlookup
  exact hkept hmem

theorem exists_createWithLimitEnforcement {deployment : Deployment} {hardLimit : Nat}
    (hkeyed : db.Keyed) (hhomed : db.Homed)
    (hfresh : db.deployments.lookup deployment.deploymentID = none) (hlimit : 6 < hardLimit)
    (status : DeploymentStatus) (now : Nat) :
    ∃ next, db.createWithLimitEnforcement deployment status hardLimit now = some next ∧
      db.Created next deployment (createdRow deployment status now) ∧
      ∀ uuid newest, db.deployments.lookup uuid = some newest →
        (∀ other ∈ db.deploymentsOf deployment.target, other ≠ newest →
          other.createdAt < newest.createdAt) →
        uuid ≠ deployment.deploymentID → next.deployments.lookup uuid = some newest := by
  cases hcreate : db.createWithLimitEnforcement deployment status hardLimit now with
  | none =>
    rw [createWithLimitEnforcement, hfresh] at hcreate
    cases hcreate
  | some next =>
    refine ⟨next, rfl, created_of_createWithLimitEnforcement hcreate hkeyed hhomed, ?_⟩
    intro uuid newest hlookup hnewest hne
    rw [createWithLimitEnforcement, hfresh] at hcreate
    obtain rfl := Option.some.inj hcreate
    exact (AList.lookup_insert_ne hne).trans
      (lookup_enforceLimit_newest hkeyed hlookup hnewest hlimit)

end DeploymentDB

/-! ## Pushes of one artifact by one gateway -/

/-- The settings of a platform that accepts pushes; a gateway sends its deployment time as the
revision. -/
structure ImportSetting extends ImportConfig where
  atLeastOne : 1 ≤ maxPerAPIGateway
  newUUID_injective : Function.Injective newUUID
  rfc3339Nano : Nat → String
  rfc3339Nano_injective : Function.Injective rfc3339Nano

/-- A push with status `deployed`; older gateways send no revision. -/
structure Push where
  displayName : String
  version : String
  spec : RestAPIConfig
  yaml : String
  projectID : String
  deployedAt : Nat
  carriesRevision : Bool
  receivedAt : Nat
  deriving DecidableEq

def Push.revision (setting : ImportSetting) (push : Push) : String :=
  if push.carriesRevision then setting.rfc3339Nano push.deployedAt else ""

def Push.request (setting : ImportSetting) (handle : String) (push : Push) :
    ImportGatewayArtifactRequest where
  configuration := ⟨handle, push.displayName, push.version, push.spec, push.yaml⟩
  projectID := push.projectID
  status := .deployed
  deployedAt := some push.deployedAt
  revision := push.revision setting

def Push.deployment (setting : ImportSetting) (push : Push) (uuid : String) (target : Target) :
    Deployment where
  deploymentID := uuid
  target := target
  content := push.yaml
  createdAt := push.deployedAt
  revision := push.revision setting

def importPushes (setting : ImportSetting) (handle gatewayID : String) (pushes : List Push) :
    Except ImportError ImportState :=
  pushes.foldlM (fun state push => importGatewayArtifact setting.toImportConfig gatewayID state
    (push.request setting handle) push.receivedAt) ImportState.start

def Push.IsNewest (newest : Push) (pushes : List Push) : Prop :=
  newest ∈ pushes ∧ ∀ push ∈ pushes, push.deployedAt ≤ newest.deployedAt

/-- What the deployments of the target tell about the pushes seen so far. -/
structure Recorded (setting : ImportSetting) (target : Target) (seen : List Push)
    (state : ImportState) : Prop where
  keyed : state.db.Keyed
  homed : state.db.Homed
  generated : ∀ uuid deployment, state.db.deployments.lookup uuid = some deployment →
    ∃ index < state.generated, uuid = setting.newUUID index
  stored : ∀ uuid deployment, state.db.deployments.lookup uuid = some deployment →
    deployment.target = target ∧ ∃ push ∈ seen, deployment.createdAt = push.deployedAt ∧
      deployment.revision = push.revision setting
  distinct : ∀ uuid other deployment stored,
    state.db.deployments.lookup uuid = some deployment →
    state.db.deployments.lookup other = some stored →
    deployment.createdAt = stored.createdAt → uuid = other
  newest : ∀ newest : Push, newest.IsNewest seen → ∃ uuid deployment,
    state.db.deployments.lookup uuid = some deployment ∧
      deployment.createdAt = newest.deployedAt

namespace Recorded

variable {setting : ImportSetting} {target : Target} {seen : List Push} {state : ImportState}

section

variable (hrecorded : Recorded setting target seen state)
include hrecorded

theorem lt_of_newest {newest : Push}
    (hnewest : newest.IsNewest seen) {uuid : String} {top : Deployment}
    (hlookup : state.db.deployments.lookup uuid = some top)
    (htop : top.createdAt = newest.deployedAt) :
    ∀ deployment ∈ state.db.deploymentsOf target, deployment ≠ top →
      deployment.createdAt < top.createdAt := by
  intro deployment hmem hne
  obtain ⟨hstored, -⟩ := (DeploymentDB.mem_deploymentsOf hrecorded.keyed).mp hmem
  obtain ⟨-, push, hpush, hcreatedAt, -⟩ := hrecorded.stored _ _ hstored
  have hle := hnewest.2 push hpush
  refine lt_of_le_of_ne (by omega) fun hsame => hne ?_
  rw [hrecorded.distinct _ _ _ _ hstored hlookup hsame, hlookup] at hstored
  exact (Option.some.inj hstored).symm

theorem getLatestDeploymentTime {newest : Push}
    (hnewest : newest.IsNewest seen) :
    state.db.getLatestDeploymentTime target.artifactUUID = some newest.deployedAt := by
  obtain ⟨uuid, top, hlookup, htop⟩ := hrecorded.newest newest hnewest
  rw [DeploymentDB.getLatestDeploymentTime, ← htop]
  apply map_argmax_eq
  · refine List.mem_filter.mpr ⟨List.mem_map.mpr ⟨⟨uuid, top⟩,
      AList.mem_lookup_iff.mp hlookup, rfl⟩, ?_⟩
    exact decide_eq_true (congrArg Target.artifactUUID (hrecorded.stored uuid top hlookup).1)
  · intro deployment hmem
    have hstored := DeploymentDB.lookup_of_mem_allDeployments hrecorded.keyed
      (List.mem_of_mem_filter hmem)
    obtain ⟨-, push, hpush, hcreatedAt, -⟩ := hrecorded.stored _ _ hstored
    have hle := hnewest.2 push hpush
    omega

theorem revision_ne {push : Push}
    (hnew : ∀ other ∈ seen, other.deployedAt ≠ push.deployedAt)
    (hrevision : push.revision setting ≠ "") :
    state.db.getLatestDeploymentRevision target ≠ push.revision setting := by
  unfold DeploymentDB.getLatestDeploymentRevision
  cases hargmax : (state.db.deploymentsOf target).argmax (·.createdAt) with
  | none => exact hrevision.symm
  | some top =>
    obtain ⟨hstored, -⟩ :=
      (DeploymentDB.mem_deploymentsOf hrecorded.keyed).mp (List.argmax_mem hargmax)
    obtain ⟨-, other, hother, -, hsame⟩ := hrecorded.stored _ _ hstored
    rw [Option.map_some, Option.getD_some, hsame]
    intro heq
    cases hcarries : push.carriesRevision with
    | false => exact hrevision (by rw [Push.revision, hcarries]; rfl)
    | true =>
      cases hotherCarries : other.carriesRevision with
      | false => exact hrevision (by rw [← heq, Push.revision, hotherCarries]; rfl)
      | true =>
        rw [Push.revision, Push.revision, hcarries, hotherCarries] at heq
        exact hnew other hother (setting.rfc3339Nano_injective heq)

theorem created {push : Push} {row : StatusRow} {deployment : Deployment} {db : DeploymentDB}
    (hnew : ∀ other ∈ seen, other.deployedAt ≠ push.deployedAt)
    (hcreated : state.db.Created db deployment row)
    (hnewest : ∀ uuid top, state.db.deployments.lookup uuid = some top →
      (∀ other ∈ state.db.deploymentsOf target, other ≠ top → other.createdAt < top.createdAt) →
      uuid ≠ deployment.deploymentID → db.deployments.lookup uuid = some top)
    (hid : deployment.deploymentID = setting.newUUID state.generated)
    (htarget : deployment.target = target) (hrow : row.deploymentUUID = deployment.deploymentID)
    (hcreatedAt : deployment.createdAt = push.deployedAt)
    (hrevision : deployment.revision = push.revision setting) :
    Recorded setting target (seen ++ [push])
      { state with db := db, generated := state.generated + 1 } := by
  -- no deployment has the generated id
  have hfresh : ∀ stored, state.db.deployments.lookup deployment.deploymentID ≠ some stored := by
    intro stored hstored
    obtain ⟨index, hlt, hsame⟩ := hrecorded.generated _ _ hstored
    have := setting.newUUID_injective (hid.symm.trans hsame)
    omega
  have hold : ∀ uuid stored, db.deployments.lookup uuid = some stored →
      uuid = deployment.deploymentID ∧ stored = deployment ∨
        state.db.deployments.lookup uuid = some stored := fun _ _ => hcreated.stored_cases
  have hlater : ∀ uuid stored, state.db.deployments.lookup uuid = some stored →
      stored.createdAt ≠ push.deployedAt := by
    intro uuid stored hstored hsame
    obtain ⟨-, other, hother, hat, -⟩ := hrecorded.stored uuid stored hstored
    exact hnew other hother (hat.symm.trans hsame)
  refine ⟨?_, ?_, ?_, ?_, ?_, ?_⟩
  · intro uuid stored hstored
    rcases hold uuid stored hstored with ⟨rfl, rfl⟩ | hstored
    · rfl
    · exact hrecorded.keyed uuid stored hstored
  · intro other found hfound
    rcases hcreated.row_cases hfound with ⟨rfl, rfl⟩ | ⟨hother, hfound⟩
    · exact ⟨deployment, hrow ▸ hcreated.new, rfl⟩
    · obtain ⟨stored, hstored, hhome⟩ := hrecorded.homed other found hfound
      exact absurd (hhome.symm.trans (hrecorded.stored _ stored hstored).1)
        (htarget ▸ hother)
  · intro uuid stored hstored
    rcases hold uuid stored hstored with ⟨rfl, rfl⟩ | hstored
    · exact ⟨state.generated, Nat.lt_succ_self _, hid⟩
    · obtain ⟨index, hlt, hsame⟩ := hrecorded.generated uuid stored hstored
      exact ⟨index, Nat.lt_succ_of_lt hlt, hsame⟩
  · intro uuid stored hstored
    rcases hold uuid stored hstored with ⟨rfl, rfl⟩ | hstored
    · exact ⟨htarget, push, List.mem_append_right _ List.mem_cons_self, hcreatedAt, hrevision⟩
    · obtain ⟨hhome, other, hother, hboth⟩ := hrecorded.stored uuid stored hstored
      exact ⟨hhome, other, List.mem_append_left _ hother, hboth⟩
  · intro uuid other first second hfirst hsecond hsame
    rcases hold uuid first hfirst with ⟨rfl, rfl⟩ | hfirst
    · rcases hold other second hsecond with ⟨rfl, rfl⟩ | hsecond
      · rfl
      · exact absurd (hsame.symm.trans hcreatedAt) (hlater other second hsecond)
    · rcases hold other second hsecond with ⟨rfl, rfl⟩ | hsecond
      · exact absurd (hsame.trans hcreatedAt) (hlater uuid first hfirst)
      · exact hrecorded.distinct uuid other first second hfirst hsecond hsame
  · rintro newest ⟨hmem, hgreatest⟩
    rcases List.mem_append.mp hmem with hmem | hmem
    · have hbefore : newest.IsNewest seen :=
        ⟨hmem, fun other hother => hgreatest other (List.mem_append_left _ hother)⟩
      obtain ⟨uuid, top, hlookup, htop⟩ := hrecorded.newest newest hbefore
      refine ⟨uuid, top, hnewest uuid top hlookup (hrecorded.lt_of_newest hbefore hlookup htop) ?_,
        htop⟩
      exact fun hsame => hfresh top (hsame ▸ hlookup)
    · obtain rfl := List.mem_singleton.mp hmem
      exact ⟨deployment.deploymentID, deployment, hcreated.new, hcreatedAt⟩

theorem writeDeployment {push : Push}
    (handle : String)
    (hnew : ∀ other ∈ seen, other.deployedAt ≠ push.deployedAt) :
    ∃ db deployment, writeDeployment setting.toImportConfig target.gatewayID state
        (push.request setting handle) target.artifactUUID push.receivedAt =
          .ok { state with db := db, generated := state.generated + 1 } ∧
      Recorded setting target (seen ++ [push])
        { state with db := db, generated := state.generated + 1 } ∧
      db.getCurrentByGateway target = some deployment ∧
      deployment.content = push.yaml ∧ deployment.createdAt = push.deployedAt := by
  have hfresh : state.db.deployments.lookup (setting.newUUID state.generated) = none := by
    rw [Option.eq_none_iff_forall_ne_some]
    intro stored hstored
    obtain ⟨index, hlt, hsame⟩ := hrecorded.generated _ _ hstored
    have := setting.newUUID_injective hsame
    omega
  have hlimit : 6 < setting.maxPerAPIGateway + deploymentLimitBuffer := by
    unfold deploymentLimitBuffer
    omega
  obtain ⟨db, hcreate, hcreated, hnewest⟩ : ∃ db, state.db.createWithLimitEnforcement
      (push.deployment setting (setting.newUUID state.generated) target) .deployed
      (setting.maxPerAPIGateway + deploymentLimitBuffer) push.receivedAt = some db ∧ _ :=
    DeploymentDB.exists_createWithLimitEnforcement hrecorded.keyed hrecorded.homed hfresh hlimit
      .deployed push.receivedAt
  refine ⟨db, push.deployment setting (setting.newUUID state.generated) target, ?_,
    hrecorded.created hnew hcreated hnewest rfl rfl rfl rfl rfl, ?_, rfl, rfl⟩
  · rw [PlatformApi.writeDeployment, if_neg, if_neg (Nat.not_lt.mpr setting.atLeastOne)]
    · rw [Push.deployment] at hcreate
      simp only [Push.request, Option.getD_some, mapDeploymentStatus, hcreate]
    · exact fun hrepeats => hrecorded.revision_ne hnew hrepeats.1 hrepeats.2
  · have hrow := (congrArg (AList.lookup target) hcreated.status).trans (AList.lookup_insert _)
    rw [DeploymentDB.getCurrentByGateway, hrow]
    exact hcreated.new

end

end Recorded

/-! ## The working copy -/

structure Imported (setting : ImportSetting) (handle : String) (target : Target)
    (seen : List Push) (state : ImportState) : Prop where
  recorded : Recorded setting target seen state
  unseen : seen = [] → state.artifacts.lookup handle = none ∧
    target.artifactUUID = setting.newUUID state.generated
  workingCopy : ∀ newest : Push, newest.IsNewest seen → state.artifacts.lookup handle =
    some ((newest.request setting handle).workingCopy target.artifactUUID)
  current : ∀ earlier last, seen = earlier ++ [last] → ∃ deployment,
    state.db.getCurrentByGateway target = some deployment ∧
      deployment.content = last.yaml ∧ deployment.createdAt = last.deployedAt

theorem Push.exists_isNewest {pushes : List Push} (hsome : pushes ≠ []) :
    ∃ newest : Push, newest.IsNewest pushes := by
  cases hargmax : pushes.argmax (·.deployedAt) with
  | none => exact absurd (List.argmax_eq_none.mp hargmax) hsome
  | some newest =>
    exact ⟨newest, List.argmax_mem hargmax, fun push hpush =>
      List.le_of_mem_argmax hpush hargmax⟩

namespace Imported

variable {setting : ImportSetting} {handle : String} {target : Target} {seen : List Push}
  {state : ImportState}

theorem resolveAndImport {push : Push} (himported : Imported setting handle target seen state)
    (hnew : ∀ other ∈ seen, other.deployedAt ≠ push.deployedAt) :
    ∃ artifacts generated, resolveAndImport setting.toImportConfig state
        (push.request setting handle) =
          .ok ({ state with artifacts := artifacts, generated := generated },
            target.artifactUUID) ∧
      state.generated ≤ generated ∧
      ∀ newest : Push, newest.IsNewest (seen ++ [push]) → artifacts.lookup handle =
        some ((newest.request setting handle).workingCopy target.artifactUUID) := by
  by_cases hempty : seen = []
  · -- the first push creates the artifact
    obtain ⟨habsent, hid⟩ := himported.unseen hempty
    refine ⟨state.artifacts.insert handle
      ((push.request setting handle).workingCopy target.artifactUUID), state.generated + 1, ?_,
      Nat.le_succ _, ?_⟩
    · have habsent : state.artifacts.lookup (push.request setting handle).configuration.name =
          none := habsent
      rw [PlatformApi.resolveAndImport, habsent, hid]
      rfl
    · rintro newest ⟨hmem, -⟩
      rw [hempty] at hmem
      rw [List.mem_singleton.mp hmem]
      exact AList.lookup_insert _
  · obtain ⟨top, htop⟩ := Push.exists_isNewest hempty
    have hcopy := himported.workingCopy top htop
    have hlatest := himported.recorded.getLatestDeploymentTime htop
    have hfound : state.artifacts.lookup (push.request setting handle).configuration.name =
        some ((top.request setting handle).workingCopy target.artifactUUID) := hcopy
    have hmode : decideMetadataWrite false .dp
        (state.db.getLatestDeploymentTime target.artifactUUID) (some push.deployedAt) =
          if top.deployedAt < push.deployedAt then .writeFullMetadata else .skipWorkingCopy := by
      simp [hlatest, decideMetadataWrite, isNewerDeployment]
    by_cases hnewer : top.deployedAt < push.deployedAt
    · rw [if_pos hnewer] at hmode
      refine ⟨state.artifacts.insert handle
        ((push.request setting handle).workingCopy target.artifactUUID), state.generated, ?_,
        le_rfl, ?_⟩
      · rw [PlatformApi.resolveAndImport, hfound]
        simp only [ImportGatewayArtifactRequest.workingCopy, Push.request, ne_eq,
          not_true_eq_false, if_false, hmode]
      · rintro newest ⟨hmem, hgreatest⟩
        rcases List.mem_append.mp hmem with hmem | hmem
        · have hle := htop.2 newest hmem
          have hge := hgreatest push (List.mem_append_right _ List.mem_cons_self)
          omega
        · rw [List.mem_singleton.mp hmem]
          exact AList.lookup_insert _
    · rw [if_neg hnewer] at hmode
      refine ⟨state.artifacts, state.generated, ?_, le_rfl, ?_⟩
      · rw [PlatformApi.resolveAndImport, hfound]
        simp only [ImportGatewayArtifactRequest.workingCopy, Push.request, ne_eq,
          not_true_eq_false, if_false, hmode]
      · rintro newest ⟨hmem, hgreatest⟩
        rcases List.mem_append.mp hmem with hmem | hmem
        · exact himported.workingCopy newest
            ⟨hmem, fun other hother => hgreatest other (List.mem_append_left _ hother)⟩
        · obtain rfl := List.mem_singleton.mp hmem
          have hge := hgreatest top (List.mem_append_left _ htop.1)
          have hne := hnew top htop.1
          omega

theorem step {push : Push} (himported : Imported setting handle target seen state)
    (hnew : ∀ other ∈ seen, other.deployedAt ≠ push.deployedAt) :
    ∃ next, importGatewayArtifact setting.toImportConfig target.gatewayID state
        (push.request setting handle) push.receivedAt = .ok next ∧
      Imported setting handle target (seen ++ [push]) next := by
  obtain ⟨artifacts, generated, hresolve, hgenerated, hcopy⟩ := himported.resolveAndImport hnew
  obtain ⟨hkeyed, hhomed, hids, hstored, hdistinct, hnewest⟩ := himported.recorded
  have hrecorded : Recorded setting target seen
      { state with artifacts := artifacts, generated := generated } := by
    refine ⟨hkeyed, hhomed, fun uuid stored hlookup => ?_, hstored, hdistinct, hnewest⟩
    obtain ⟨index, hlt, hsame⟩ := hids uuid stored hlookup
    exact ⟨index, Nat.lt_of_lt_of_le hlt hgenerated, hsame⟩
  obtain ⟨db, deployment, hwrite, hrecorded, hcurrent, hcontent, hcreatedAt⟩ :=
    hrecorded.writeDeployment handle hnew
  refine ⟨_, ?_, hrecorded, ?_, hcopy, ?_⟩
  · rw [importGatewayArtifact, if_neg (by simp [Push.request]), hresolve]
    exact hwrite
  · intro hnil
    exact absurd hnil (by simp)
  · intro earlier last hsplit
    obtain ⟨-, rfl⟩ := List.append_inj' hsplit rfl |>.imp_right List.singleton_inj.mp
    exact ⟨deployment, hcurrent, hcontent, hcreatedAt⟩

theorem start (setting : ImportSetting) (handle gatewayID : String) :
    Imported setting handle ⟨setting.newUUID 0, gatewayID⟩ [] ImportState.start := by
  have hnone : ∀ uuid deployment,
      ImportState.start.db.deployments.lookup uuid ≠ some deployment := by
    simp [ImportState.start, DeploymentDB.empty]
  refine ⟨⟨?_, ?_, ?_, ?_, ?_, ?_⟩, ?_, ?_, ?_⟩
  · exact fun uuid stored hlookup => absurd hlookup (hnone uuid stored)
  · intro other row hrow
    exact absurd hrow (by simp [ImportState.start, DeploymentDB.empty])
  · exact fun uuid stored hlookup => absurd hlookup (hnone uuid stored)
  · exact fun uuid stored hlookup => absurd hlookup (hnone uuid stored)
  · exact fun uuid _ stored _ hlookup => absurd hlookup (hnone uuid stored)
  · exact fun newest hnewest => absurd hnewest.1 List.not_mem_nil
  · exact fun _ => ⟨by simp [ImportState.start], rfl⟩
  · exact fun newest hnewest => absurd hnewest.1 List.not_mem_nil
  · exact fun earlier last hsplit => absurd hsplit (by simp)

end Imported

section Samples

def numeral (number : Nat) : String :=
  String.ofList (List.replicate number 'i')

theorem numeral_injective : Function.Injective numeral := by
  intro first second hsame
  have hlists := congrArg String.toList hsame
  simpa [numeral] using congrArg List.length hlists

def sampleSetting : ImportSetting where
  maxPerAPIGateway := 20
  newUUID := numeral
  atLeastOne := by decide
  newUUID_injective := numeral_injective
  rfc3339Nano := numeral
  rfc3339Nano_injective := numeral_injective

def samplePush (deployedAt : Nat) : Push where
  displayName := "Pets"
  version := ""
  spec := ⟨[], numeral deployedAt, ""⟩
  yaml := numeral deployedAt
  projectID := "default"
  deployedAt := deployedAt
  carriesRevision := true
  receivedAt := 7

end Samples

def currentTime (pushes : List Push) : Option Nat :=
  (importPushes sampleSetting "pets" "edge" pushes).toOption.bind fun final =>
    (final.db.getCurrentByGateway ⟨numeral 0, "edge"⟩).map (·.createdAt)

end ApiPlatform.PlatformApi
