import ApiPlatform.PlatformApi.Deployments

/-!
# Secret references

`SetCurrentWithDetails` keeps `artifact_secret_refs` in step with the status
that it writes.  Two other transactions make a deployment DEPLOYED and do not
touch the references: the acknowledgement of a deploy that was DEPLOYING, and
the import of what a gateway has deployed itself.  The references are right as
long as these two find them right.
-/

namespace ApiPlatform.PlatformApi

open Foundation PlatformApi.System DeploymentDB

variable {other : Target} {unfinished : List Deployment} {event : Event} {status : DeploymentStatus}
  {operation : Operation}

/-! ## The property -/

/-- The deployment is the current one of the target, in status DEPLOYED. -/
def System.Deployed (system : System) (target : Target) (deployment : Deployment) : Prop :=
  ∃ row, system.db.deploymentStatus.lookup target = some row ∧ row.status = .deployed ∧
    system.db.deployments.lookup row.deploymentUUID = some deployment

def DeploymentDB.RefsCover (db : DeploymentDB) (target : Target) (content : String) : Prop :=
  (db.refsOf target).Perm (extractSecretHandles content)

instance (db : DeploymentDB) (target : Target) (content : String) :
    Decidable (db.RefsCover target content) :=
  inferInstanceAs (Decidable (List.Perm _ _))

def System.RefsMatch (system : System) : Prop :=
  ∀ target deployment, system.Deployed target deployment →
    system.db.RefsCover target deployment.content

def System.SparesUsed (config : DeploymentConfig) (system : System) (handle : String) : Prop :=
  ∀ target deployment, system.Deployed target deployment →
    handle ∈ extractSecretHandles deployment.content →
    (system.step config (.softDelete handle)).db.secrets.lookup handle =
      system.db.secrets.lookup handle

/-- The references are right but for deploy requests between their two transactions. -/
def System.RefsSettled (system : System) : Prop :=
  ∀ target deployment, system.Deployed target deployment → deployment ∉ system.unfinished →
    system.db.RefsCover target deployment.content

/-! ## The condition -/

/-- A transaction that makes a deployment DEPLOYED and leaves the references alone finds them
right. -/
def System.KeepsRefs (system : System) : Event → Prop
  | .importPush deployment status => status = .deployed →
      deployment.deploymentID ∉ system.issued →
      deployment.target.gatewayID ≠ artifactLevelGatewayID →
      system.db.RefsCover deployment.target deployment.content
  | .ack operation status => status = .success → operation.action = .deploy →
      operation ∈ system.announced →
      ∀ row ∈ system.db.guardedRow operation.target operation.performedAt [.deploying],
        ∀ deployment ∈ system.db.deployments.lookup row.deploymentUUID,
          deployment ∉ system.unfinished →
          system.db.RefsCover operation.target deployment.content
  | _ => True

/-! ## Reference rows -/

namespace DeploymentDB

variable (db : DeploymentDB) (target : Target) (handles : List String)

theorem refsOf_upsertDeploymentSecretRefs :
    (db.upsertDeploymentSecretRefs target handles).refsOf target = handles := by
  simp [refsOf, upsertDeploymentSecretRefs, List.filter_filter, List.filter_map, Function.comp_def]

theorem refsOf_upsertDeploymentSecretRefs_ne (hother : other ≠ target) :
    (db.upsertDeploymentSecretRefs target handles).refsOf other = db.refsOf other := by
  have hnew : (handles.map fun handle => (⟨target, handle⟩ : SecretRef)).filter
      (·.target = other) = [] := by
    simp [List.filter_eq_nil_iff, hother.symm]
  have hold : (db.secretRefs.filter (·.target ≠ target)).filter (·.target = other) =
      db.secretRefs.filter (·.target = other) := by
    rw [List.filter_filter]
    refine List.filter_congr fun ref _ => ?_
    by_cases href : ref.target = other
    · simp [href, hother]
    · simp [href]
  rw [refsOf, upsertDeploymentSecretRefs, List.filter_append, hnew, hold, List.append_nil]
  rfl

variable {db target} {next : DeploymentDB} {deployment : Deployment} {row : StatusRow}

theorem refsOf_congr (hrefs : next.secretRefs = db.secretRefs) (other : Target) :
    next.refsOf other = db.refsOf other := by
  rw [refsOf, hrefs, refsOf]

theorem Current.refsOf (hcurrent : db.Current next target deployment row) :
    next.refsOf target = if row.status = .deployed then
      extractSecretHandles deployment.content else [] := by
  rw [refsOf_congr hcurrent.refs]
  exact refsOf_upsertDeploymentSecretRefs db target _

end DeploymentDB

/-! ## What keeps the references right -/

namespace System

variable {config : DeploymentConfig} {system : System}

theorem WellFormed.deployed_target {target : Target} {deployment : Deployment}
    (hsystem : system.WellFormed) (hdeployed : system.Deployed target deployment) :
    deployment.target = target := by
  obtain ⟨row, hrow, -, hstored⟩ := hdeployed
  obtain ⟨home, hhome, htarget⟩ := hsystem.homed target row hrow
  obtain rfl := Option.some.inj (hhome.symm.trans hstored)
  exact htarget

section

variable (hsettled : system.RefsSettled)
include hsettled

theorem RefsSettled.congr {next : System}
    (hdeployed : ∀ target deployment, next.Deployed target deployment →
      deployment ∉ next.unfinished →
      (system.Deployed target deployment ∧ deployment ∉ system.unfinished ∧
        next.db.refsOf target = system.db.refsOf target) ∨
      next.db.RefsCover target deployment.content) : next.RefsSettled := by
  intro target deployment hnext hfinished
  rcases hdeployed target deployment hnext hfinished with ⟨hold, hnot, hrefs⟩ | hcover
  · rw [DeploymentDB.RefsCover, hrefs]
    exact hsettled target deployment hold hnot
  · exact hcover

theorem RefsSettled.recordWrite {target : Target} {deployment : Deployment} {row : StatusRow}
    {db : DeploymentDB} (hsystem : system.WellFormed)
    (hcurrent : system.db.Current db target deployment row) (hhome : deployment.target = target)
    (hfinished : ∀ pending ∈ system.unfinished, pending ∈ unfinished ∨ pending = deployment) :
    { system.recordWrite target db with unfinished := unfinished }.RefsSettled := by
  refine hsettled.congr ?_
  rintro other stored ⟨found, hfound, hstatus, hstored⟩ hnot
  have hbefore : system.db.deployments.lookup found.deploymentUUID = some stored :=
    (congrArg (AList.lookup found.deploymentUUID) hcurrent.deployments).symm.trans hstored
  rcases hcurrent.row_cases hfound with ⟨rfl, rfl⟩ | ⟨hother, hfound⟩
  · obtain rfl := Option.some.inj (hcurrent.stored.symm.trans hbefore)
    have hrefs := hcurrent.refsOf
    rw [if_pos hstatus] at hrefs
    exact .inr (List.Perm.of_eq hrefs)
  · have hold : system.Deployed other stored := ⟨found, hfound, hstatus, hbefore⟩
    refine .inl ⟨hold, fun hpending => ?_, (refsOf_congr hcurrent.refs _).trans
      (refsOf_upsertDeploymentSecretRefs_ne _ _ _ hother)⟩
    rcases hfinished stored hpending with hpending | rfl
    · exact hnot hpending
    · exact hother ((hsystem.deployed_target hold).symm.trans hhome)

theorem RefsSettled.created {deployment : Deployment} {db : DeploymentDB}
    (hsystem : system.WellFormed) (hkeeps : system.KeepsRefs event)
    (hevent : event.creates = some (deployment, status))
    (hfresh : deployment.deploymentID ∉ system.issued)
    (hgateway : deployment.target.gatewayID ≠ artifactLevelGatewayID)
    (hcreated : system.db.Created db deployment
      (createdRow deployment status system.now))
    (hunfinished : unfinished = system.unfinished ++ event.begins) :
    { system.recordWrite deployment.target db with
      issued := deployment.deploymentID :: system.issued
      unfinished := unfinished }.RefsSettled := by
  refine hsettled.congr ?_
  rintro other stored ⟨found, hfound, hstatus, hstored⟩ hnot
  have hrefs := refsOf_congr hcreated.refs
  rw [hunfinished, List.mem_append, not_or] at hnot
  rcases hcreated.row_cases hfound with ⟨rfl, rfl⟩ | ⟨-, hfound⟩
  · obtain rfl := Option.some.inj (hcreated.new.symm.trans hstored)
    right
    change (db.refsOf deployment.target).Perm _
    rw [hrefs]
    cases event with
    | createDeployment other =>
      cases hevent
      exact absurd List.mem_cons_self hnot.2
    | importPush other status =>
      cases hevent
      exact hkeeps hstatus hfresh hgateway
    | _ => cases hevent
  · obtain ⟨home, hhome, -⟩ := hsystem.homed other found hfound
    have hne : found.deploymentUUID ≠ deployment.deploymentID :=
      fun hsame => hfresh (hsame ▸ hsystem.issued _ _ hhome)
    have hstored := (hcreated.current other found hfound hne).symm.trans hstored
    exact .inl ⟨⟨found, hfound, hstatus, hstored⟩, hnot.1, hrefs other⟩

theorem RefsSettled.unwritten {deployment : Deployment} {writes : Nat} {announced : List Operation}
    (hsystem : system.WellFormed)
    (hmissing : system.db.deployments.lookup deployment.deploymentID = none) :
    { system with
      unfinished := system.unfinished.erase deployment
      writes := writes
      announced := announced }.RefsSettled := by
  refine hsettled.congr ?_
  rintro target stored ⟨row, hrow, hstatus, hstored⟩ hnot
  refine .inl ⟨⟨row, hrow, hstatus, hstored⟩, fun hpending => hnot ?_, rfl⟩
  refine (List.mem_erase_of_ne fun hsame => ?_).mpr hpending
  have hid : stored.deploymentID = row.deploymentUUID := hsystem.keyed _ _ hstored
  have hfound : system.db.deployments.lookup row.deploymentUUID = some stored := hstored
  rw [← hsame, hid, hfound] at hmissing
  cases hmissing

theorem RefsSettled.update {target : Target} {newStatus : DeploymentStatus} {reason : String}
    {performedAt : Nat} {required : List DeploymentStatus} (hcover : newStatus = .deployed →
      ∀ row ∈ system.db.guardedRow target performedAt required,
        ∀ deployment ∈ system.db.deployments.lookup row.deploymentUUID,
          deployment ∉ system.unfinished → system.db.RefsCover target deployment.content) :
    { system with
      db := system.db.updateStatusWithPerformedAtGuard target newStatus reason performedAt
        required system.now }.RefsSettled := by
  unfold updateStatusWithPerformedAtGuard
  split
  · exact hsettled
  · next row hguard =>
      refine hsettled.congr ?_
      rintro other stored ⟨found, hfound, hstatus, hstored⟩ hnot
      rcases lookup_insert_eq_some_iff.mp hfound with ⟨rfl, rfl⟩ | ⟨-, hfound⟩
      · exact .inr (hcover hstatus row hguard stored hstored hnot)
      · exact .inl ⟨⟨found, hfound, hstatus, hstored⟩, hnot, rfl⟩

end

theorem RefsSettled.acknowledged (status : AckStatus) (hsettled : system.RefsSettled)
    (hkeeps : system.KeepsRefs (.ack operation status))
    (hannounced : operation ∈ system.announced) :
    { system with
      db := handleDeploymentAck system.db operation status system.now }.RefsSettled := by
  cases status with
  | failed errorCode => exact hsettled.update nofun
  | success =>
    refine hsettled.update fun hdeployed => ?_
    cases haction : operation.action with
    | deploy => exact hkeeps rfl haction hannounced
    | undeploy =>
      rw [haction] at hdeployed
      cases hdeployed

theorem RefsSettled.saved (hsettled : system.RefsSettled) (hsystem : system.WellFormed)
    (artifactUUID configJSON : String) :
    { system with
      db := system.db.upsertArtifactSecretRefs artifactUUID configJSON }.RefsSettled := by
  refine hsettled.congr ?_
  intro target stored hdeployed hnot
  obtain ⟨row, hrow, hstatus, hstored⟩ := hdeployed
  have hold : system.Deployed target stored := ⟨row, hrow, hstatus, hstored⟩
  refine .inl ⟨hold, hnot, refsOf_upsertDeploymentSecretRefs_ne _ _ _ fun htarget => ?_⟩
  -- a deployment is never to the gateway that stands for the artifact itself
  refine hsystem.gateways _ stored hstored ?_
  rw [hsystem.deployed_target hold, htarget]

theorem RefsSettled.transition {next : System} (hsettled : system.RefsSettled)
    (hsystem : system.WellFormed) (hkeeps : system.KeepsRefs event)
    (htransition : system.Transition config event next) : next.RefsSettled := by
  cases htransition with
  | refused => exact hsettled
  | created hevent hfresh hgateway hcreated hunfinished =>
    exact hsettled.created hsystem hkeeps hevent hfresh hgateway hcreated hunfinished
  | announced _ hcurrent hhome _ _ _ hfinished =>
    exact hsettled.recordWrite hsystem hcurrent hhome hfinished
  | unwritten _ hmissing => exact hsettled.unwritten hsystem hmissing
  | undeployed hcurrent hhome _ _ =>
    exact hsettled.recordWrite hsystem hcurrent hhome fun _ => .inl
  | acknowledged status hannounced => exact hsettled.acknowledged status hkeeps hannounced
  | resolved _ => exact hsettled.update nofun
  | saved artifactUUID configJSON => exact hsettled.saved hsystem artifactUUID configJSON
  | ticked | read | secretCreated | deprecated => exact hsettled

/-! ## What has to keep them right -/

theorem RefsSettled.keepsRefs_importPush {deployment : Deployment} (hsystem : system.WellFormed)
    (hnext : (system.step config (.importPush deployment status)).RefsSettled) :
    system.KeepsRefs (.importPush deployment status) := by
  rintro rfl hfresh hgateway
  have hcreate : ∃ db, system.db.createWithLimitEnforcement deployment .deployed
      config.hardLimit system.now = some db := by
    cases hlookup : system.db.deployments.lookup deployment.deploymentID with
    | none =>
      rw [createWithLimitEnforcement, hlookup]
      exact ⟨_, rfl⟩
    | some stored => exact absurd (hsystem.issued _ _ hlookup) hfresh
  obtain ⟨db, hdb⟩ := hcreate
  have hstep : system.step config (.importPush deployment .deployed) =
      { system.recordWrite deployment.target db with
        issued := deployment.deploymentID :: system.issued } := by
    simp only [step, create]
    rw [if_neg (not_or.mpr ⟨hfresh, hgateway⟩), hdb]
    rfl
  have hcreated :=
    created_of_createWithLimitEnforcement hdb hsystem.keyed hsystem.homed
  rw [hstep] at hnext
  have hcover := hnext deployment.target deployment
    ⟨_, (congrArg (AList.lookup deployment.target) hcreated.status).trans
      (AList.lookup_insert _), rfl, hcreated.new⟩
    fun hpending => hfresh (hsystem.unfinished deployment hpending).1
  rw [DeploymentDB.RefsCover, ← refsOf_congr hcreated.refs]
  exact hcover

theorem RefsSettled.keepsRefs_ack {status : AckStatus}
    (hnext : (system.step config (.ack operation status)).RefsSettled) :
    system.KeepsRefs (.ack operation status) := by
  rintro rfl haction hannounced row hguard deployment hstored hnot
  have hupdate : handleDeploymentAck system.db operation .success system.now =
      { system.db with
        deploymentStatus := system.db.deploymentStatus.insert operation.target
          { row with status := .deployed, statusReason := "", updatedAt := system.now } } := by
    simp only [handleDeploymentAck, haction, DeploymentAction.transitionalStatus,
      updateStatusWithPerformedAtGuard]
    rw [hguard]
    rfl
  simp only [step, if_pos hannounced, hupdate] at hnext
  exact hnext operation.target deployment ⟨_, AList.lookup_insert _, rfl, hstored⟩ hnot

theorem keepsRefs_iff (hsystem : system.WellFormed) (hsettled : system.RefsSettled)
    (event : Event) :
    system.KeepsRefs event ↔ (system.step config event).RefsSettled := by
  constructor
  · intro hkeeps
    exact hsettled.transition hsystem hkeeps (step_transition hsystem event)
  · intro hnext
    cases event with
    | importPush deployment status => exact hnext.keepsRefs_importPush hsystem
    | ack operation status => exact hnext.keepsRefs_ack
    | _ => trivial

theorem RefsMatch.sparesUsed (hmatch : system.RefsMatch) (handle : String) :
    system.SparesUsed config handle := by
  intro target deployment hdeployed hused
  have hmem := (hmatch target deployment hdeployed).mem_iff.mpr hused
  obtain ⟨ref, href, hhandle⟩ := List.mem_map.mp hmem
  have htransition : system.Transition config (.softDelete handle) _ :=
    softDelete_transition handle
  generalize system.step config (.softDelete handle) = next at htransition ⊢
  cases htransition with
  | refused => rfl
  | created hevent | announced hevent => cases hevent
  | deprecated hunused => exact absurd hhandle (hunused ref (List.mem_of_mem_filter href))

theorem refsSettled_start : start.RefsSettled := by
  rintro target deployment ⟨row, hrow, -⟩ _
  exact absurd hrow (by simp [start, empty])

end System

/-- A run keeps the references right exactly when its acknowledgements and imports find them
right; then, between deploy requests, no secret of a deployed artifact is deprecated. -/
theorem refsMatch_of_keepsRefs (config : DeploymentConfig) (events : List Event) :
    (Conforms (step config) System.KeepsRefs start events ↔
      ∀ pre, pre <+: events → (run (step config) start pre).RefsSettled) ∧
    (Conforms (step config) System.KeepsRefs start events →
      ∀ pre, pre <+: events → (run (step config) start pre).unfinished = [] →
        (run (step config) start pre).RefsMatch ∧
        ∀ handle, (run (step config) start pre).SparesUsed config handle) := by
  have hvalid : ∀ system event, System.WellFormed system →
      (step config system event).WellFormed := fun _ event hsystem => hsystem.step event
  have hstep : ∀ system event, System.WellFormed system → System.RefsSettled system →
      (System.KeepsRefs system event ↔ (step config system event).RefsSettled) :=
    fun _ event hsystem hsettled => keepsRefs_iff hsystem hsettled event
  have hiff : Conforms (step config) System.KeepsRefs start events ↔
      ∀ pre, pre <+: events → (run (step config) start pre).RefsSettled :=
    conforms_iff_forall_prefix hvalid hstep wellFormed_start refsSettled_start
  refine ⟨hiff, fun hconforms pre hpre hfinished => ?_⟩
  have hmatch : (run (step config) start pre).RefsMatch := by
    intro target deployment hdeployed
    refine hiff.mp hconforms pre hpre target deployment hdeployed ?_
    rw [hfinished]
    exact List.not_mem_nil
  exact ⟨hmatch, fun handle => hmatch.sparesUsed handle⟩

section Samples

def databaseContent : String := "password: \x7b\x7b secret \"db\" \x7d\x7d"

def petsWithSecret : Deployment := petsDeployment "d1" databaseContent

example : extractSecretHandles databaseContent = ["db"] := by decide +kernel

def secretEvents : List Event :=
  [.createSecret "db", .createDeployment petsWithSecret, .setDeployed petsWithSecret,
    .ack ⟨petsWithSecret.target, "d1", .deploy, 0, 1⟩ .success]

end Samples

/-- With transitional statuses a deployment becomes DEPLOYED without its references. -/
theorem acknowledged_secret_deprecated :
    ∃ system, system = run (step transitional) start secretEvents ∧
      system.unfinished = [] ∧ ¬ system.RefsMatch ∧
      ¬ system.SparesUsed transitional "db" := by
  have hdeployed : (run (step transitional) start secretEvents).Deployed
      petsWithSecret.target petsWithSecret :=
    ⟨⟨"d1", .deployed, .deployed, 0, "", 0⟩, by decide +kernel, rfl, by decide +kernel⟩
  refine ⟨_, rfl, by decide +kernel, ?_, ?_⟩
  · intro hmatch
    exact absurd (hmatch _ _ hdeployed) (by decide +kernel)
  · intro hspares
    exact absurd (hspares _ _ hdeployed (by decide +kernel)) (by decide +kernel)

end ApiPlatform.PlatformApi
