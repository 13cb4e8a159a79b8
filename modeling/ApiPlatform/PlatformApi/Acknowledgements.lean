import ApiPlatform.PlatformApi.Deployments

/-!
# Acknowledgements and timeouts

An acknowledgement names its operation by `performed_at` alone, a time in
milliseconds.  When the clock has moved on between the operations on an
artifact and a gateway, a late acknowledgement or timeout leaves the row of a
later operation alone.  Two operations in one millisecond are not told apart.
-/

namespace ApiPlatform.PlatformApi

open Foundation DeploymentDB PlatformApi.System DeploymentAction

variable {event : Event} {number : Nat} {operation : Operation}

/-! ## The property -/

def System.IsLatest (system : System) (target : Target) (number : Nat) : Prop :=
  system.lastWrite.lookup target = some number

instance (system : System) (target : Target) (number : Nat) :
    Decidable (system.IsLatest target number) :=
  inferInstanceAs (Decidable (system.lastWrite.lookup target = some number))

def System.ChangesOnly (system next : System) (target : Target) (number : Nat) : Prop :=
  ∀ other, ¬ (other = target ∧ system.IsLatest target number) →
    next.db.deploymentStatus.lookup other = system.db.deploymentStatus.lookup other

def AckStatus.RecordedIn (row : StatusRow) (operation : Operation) : AckStatus → Prop
  | .success => row.status = operation.action.finalStatus
  | .failed errorCode => row.status = .failed ∧ row.statusReason = errorCode

def System.Respects (config : DeploymentConfig) (system : System) : Event → Prop
  | .ack operation status => operation ∈ system.announced →
      system.ChangesOnly (system.step config (.ack operation status)) operation.target
          operation.number ∧
        (system.IsLatest operation.target operation.number → ∃ row,
          (system.step config (.ack operation status)).db.deploymentStatus.lookup
              operation.target = some row ∧
            row.deploymentUUID = operation.deploymentID ∧
            row.performedAt = operation.performedAt ∧ status.RecordedIn row operation)
  | .resolveStale entry => entry ∈ system.stale →
      system.ChangesOnly (system.step config (.resolveStale entry)) entry.target entry.number
  | _ => True

/-! ## The condition -/

/-- The target whose row a step of an operation or of an import writes. -/
def Event.writesTo : Event → Option Target
  | .createDeployment deployment => some deployment.target
  | .setDeployed deployment => some deployment.target
  | .restore target _ => some target
  | .undeploy target _ => some target
  | .importPush deployment _ => some deployment.target
  | .importUndeploy target => some target
  | _ => none

theorem Event.writesTo_of_creates {deployment : Deployment} {status : DeploymentStatus}
    (hcreates : event.creates = some (deployment, status)) :
    event.writesTo = some deployment.target := by
  cases event <;> simp_all [creates, writesTo]

theorem Event.writesTo_of_announces {target : Target} (hannounces : event.announces = some target) :
    event.writesTo = some target := by
  cases event <;> simp_all [announces, writesTo]

/-- The operations announced for a target lie in the past when its row is written again, no
success is reported of an operation that was recorded as failed, and the deployment of a deploy
request is still there when the request makes it current. -/
@[mk_iff]
structure System.Spaced (system : System) (event : Event) : Prop where
  writes : ∀ operation ∈ system.announced, event.writesTo = some operation.target →
    operation.performedAt < system.now
  successes : ∀ operation ∈ system.announced, event = .ack operation .success →
    system.IsLatest operation.target operation.number →
      (system.db.deploymentStatus.lookup operation.target).map (·.status) ≠ some .failed
  deploys : ∀ deployment ∈ system.unfinished, event = .setDeployed deployment →
    system.db.deployments.lookup deployment.deploymentID ≠ none

instance (system : System) (event : Event) : Decidable (system.Spaced event) :=
  decidable_of_iff' _ (spaced_iff _ _)

/-! ## The invariant -/

/-- What the row of the operation can be as long as no other write has come. -/
def Operation.Owns (operation : Operation) (row : StatusRow) : Prop :=
  row.deploymentUUID = operation.deploymentID ∧
    (row.status = operation.action.transitionalStatus ∨
      row.status = operation.action.finalStatus ∨ row.status = .failed)

/-- The time of a write tells its row from the rows of later writes. -/
def System.Tracked (system : System) (target : Target) (performedAt number : Nat)
    (own : StatusRow → Prop) : Prop :=
  ∃ row last, system.db.deploymentStatus.lookup target = some row ∧
    system.lastWrite.lookup target = some last ∧
    (last = number → row.performedAt = performedAt ∧ own row) ∧
    (last ≠ number → performedAt < row.performedAt)

structure System.Ordered (system : System) : Prop where
  rows : ∀ target row, system.db.deploymentStatus.lookup target = some row →
    ∃ last, system.lastWrite.lookup target = some last ∧ last < system.writes
  announced : ∀ operation ∈ system.announced, operation.number < system.writes ∧
    system.Tracked operation.target operation.performedAt operation.number operation.Owns
  stale : ∀ entry ∈ system.stale, entry.number < system.writes ∧
    entry.performedAt < system.now ∧
    system.Tracked entry.target entry.performedAt entry.number fun _ => True

namespace System

variable {config : DeploymentConfig} {system : System}

theorem ordered_start : start.Ordered := by
  refine ⟨?_, ?_, ?_⟩
  · intro _ _ hlookup
    exact absurd hlookup (by simp [start, empty])
  · intro _ hmem
    exact absurd hmem List.not_mem_nil
  · intro _ hmem
    exact absurd hmem List.not_mem_nil

section Write

variable {target : Target} {row : StatusRow} {db : DeploymentDB}
  (hstatus : db.deploymentStatus = system.db.deploymentStatus.insert target row)
  (hperformedAt : row.performedAt = system.now)

include hstatus hperformedAt

theorem Tracked.recordWrite {other : Target} {performedAt : Nat} {own : StatusRow → Prop}
    (htracked : system.Tracked other performedAt number own) (hnumber : number < system.writes)
    (hpast : other = target → performedAt < system.now) :
    (system.recordWrite target db).Tracked other performedAt number own := by
  obtain ⟨found, last, hfound, hlast, hown, hlater⟩ := htracked
  by_cases hother : other = target
  · subst hother
    refine ⟨row, system.writes, ?_, AList.lookup_insert _, ?_, ?_⟩
    · exact (congrArg (AList.lookup other) hstatus).trans (AList.lookup_insert _)
    · intro hsame
      omega
    · intro _
      rw [hperformedAt]
      exact hpast rfl
  · refine ⟨found, last, ?_, ?_, hown, hlater⟩
    · exact (congrArg (AList.lookup other) hstatus).trans
        ((AList.lookup_insert_ne hother).trans hfound)
    · exact (AList.lookup_insert_ne hother).trans hlast

theorem Ordered.recordWrite (hordered : system.Ordered)
    (hpast : ∀ operation ∈ system.announced, operation.target = target →
      operation.performedAt < system.now) : (system.recordWrite target db).Ordered := by
  refine ⟨?_, ?_, ?_⟩
  · intro other found hfound
    by_cases hother : other = target
    · subst hother
      exact ⟨system.writes, AList.lookup_insert _, Nat.lt_succ_self _⟩
    · have hfound := (congrArg (AList.lookup other) hstatus).symm.trans hfound
      rw [AList.lookup_insert_ne hother] at hfound
      obtain ⟨last, hlast, hlt⟩ := hordered.rows other found hfound
      exact ⟨last, (AList.lookup_insert_ne hother).trans hlast, Nat.lt_succ_of_lt hlt⟩
  · intro operation hmem
    obtain ⟨hnumber, htracked⟩ := hordered.announced operation hmem
    exact ⟨Nat.lt_succ_of_lt hnumber, htracked.recordWrite hstatus hperformedAt hnumber
      (hpast operation hmem)⟩
  · intro entry hmem
    obtain ⟨hnumber, hbefore, htracked⟩ := hordered.stale entry hmem
    exact ⟨Nat.lt_succ_of_lt hnumber, hbefore,
      htracked.recordWrite hstatus hperformedAt hnumber fun _ => hbefore⟩

end Write

section Update

variable {target : Target} {newStatus : DeploymentStatus} {reason : String} {performedAt : Nat}
  {required : List DeploymentStatus}

theorem Tracked.update {other : Target} {otherAt : Nat} {own : StatusRow → Prop}
    (htracked : system.Tracked other otherAt number own)
    (hown : ∀ row, own row → system.db.guardedRow target performedAt required = some row →
      own { row with status := newStatus, statusReason := reason, updatedAt := system.now }) :
    { system with
      db := system.db.updateStatusWithPerformedAtGuard target newStatus reason performedAt
        required system.now }.Tracked other otherAt number own := by
  unfold updateStatusWithPerformedAtGuard
  split
  · exact htracked
  · next row hguard =>
      obtain ⟨found, last, hfound, hlast, hlatest, hlater⟩ := htracked
      have hrow := (guardedRow_eq_some_iff.mp hguard).1
      by_cases hother : other = target
      · subst hother
        obtain rfl := Option.some.inj (hrow.symm.trans hfound)
        refine ⟨_, last, AList.lookup_insert _, hlast, ?_, hlater⟩
        intro hsame
        exact ⟨(hlatest hsame).1, hown row (hlatest hsame).2 hguard⟩
      · exact ⟨found, last, (AList.lookup_insert_ne hother).trans hfound, hlast, hlatest, hlater⟩

theorem Ordered.update (hordered : system.Ordered)
    (hown : ∀ (operation : Operation) row, operation.Owns row →
      system.db.guardedRow target performedAt required = some row →
      operation.Owns
        { row with status := newStatus, statusReason := reason, updatedAt := system.now }) :
    { system with
      db := system.db.updateStatusWithPerformedAtGuard target newStatus reason performedAt
        required system.now }.Ordered := by
  refine ⟨?_, ?_, ?_⟩
  · intro other row hrow
    unfold updateStatusWithPerformedAtGuard at hrow
    split at hrow
    · exact hordered.rows other row hrow
    · next found hguard =>
        rcases lookup_insert_eq_some_iff.mp hrow with ⟨rfl, -⟩ | ⟨-, hrow⟩
        · exact hordered.rows other found (guardedRow_eq_some_iff.mp hguard).1
        · exact hordered.rows other row hrow
  · intro operation hmem
    obtain ⟨hnumber, htracked⟩ := hordered.announced operation hmem
    exact ⟨hnumber, htracked.update (hown operation)⟩
  · intro entry hmem
    obtain ⟨hnumber, hbefore, htracked⟩ := hordered.stale entry hmem
    exact ⟨hnumber, hbefore, htracked.update fun _ _ _ => trivial⟩

end Update

theorem owns_final {acknowledged : Operation} {row : StatusRow} (howns : operation.Owns row)
    (hstatus : row.status = acknowledged.action.transitionalStatus) :
    operation.action.finalStatus = acknowledged.action.finalStatus := by
  obtain ⟨-, hcases⟩ := howns
  cases hacknowledged : acknowledged.action <;> cases haction : operation.action <;>
    simp_all [transitionalStatus, finalStatus]

theorem Ordered.acknowledged (hordered : system.Ordered) (status : AckStatus) :
    { system with
      db := handleDeploymentAck system.db operation status system.now }.Ordered := by
  cases status with
  | failed errorCode =>
    exact hordered.update fun owner row howns _ => ⟨howns.1, .inr (.inr rfl)⟩
  | success =>
    refine hordered.update fun owner row howns hguard => ⟨howns.1, .inr (.inl ?_)⟩
    obtain ⟨-, -, hrequired⟩ := guardedRow_eq_some_iff.mp hguard
    have hstatus : row.status = operation.action.transitionalStatus := by
      simpa using hrequired
    exact (owns_final howns hstatus).symm

theorem Ordered.readStale (hordered : system.Ordered) :
    { system with stale := system.staleStatuses config }.Ordered := by
  refine ⟨hordered.rows, hordered.announced, ?_⟩
  intro entry hmem
  obtain ⟨⟨target, row⟩, hrow, hentry⟩ := List.mem_filterMap.mp hmem
  have hlookup : system.db.deploymentStatus.lookup target = some row :=
    AList.mem_lookup_iff.mpr hrow
  obtain ⟨last, hlast, hlt⟩ := hordered.rows target row hlookup
  split at hentry
  · next hstale =>
      cases hentry
      have hbefore : row.performedAt < system.now :=
        Nat.lt_of_le_of_lt (Nat.le_add_right _ _) hstale.2
      rw [hlast]
      refine ⟨hlt, hbefore, row, last, hlookup, hlast, ?_, ?_⟩
      · exact fun _ => ⟨rfl, trivial⟩
      · exact fun hother => absurd rfl hother
  · cases hentry

theorem initialStatus_eq (action : DeploymentAction) :
    config.initialStatus action = action.transitionalStatus ∨
      config.initialStatus action = action.finalStatus := by
  cases action <;>
    simp only [DeploymentConfig.initialStatus, transitionalStatus,
      finalStatus] <;>
    cases config.transitionalStatusEnabled <;> simp

theorem Ordered.transition {next : System} (hordered : system.Ordered)
    (hspaced : system.Spaced event) (htransition : system.Transition config event next) :
    next.Ordered := by
  cases htransition with
  | refused => exact hordered
  | unwritten hmem hmissing => exact absurd hmissing (hspaced.deploys _ hmem rfl)
  | ticked elapsed =>
    refine ⟨hordered.rows, hordered.announced, ?_⟩
    intro entry hmem
    obtain ⟨hnumber, hbefore, htracked⟩ := hordered.stale entry hmem
    exact ⟨hnumber, Nat.lt_add_right elapsed hbefore, htracked⟩
  | created hevent _ _ hcreated _ =>
    have hwritten := hordered.recordWrite hcreated.status rfl fun operation hmem htarget =>
      hspaced.writes operation hmem (htarget ▸ Event.writesTo_of_creates hevent)
    exact ⟨hwritten.rows, hwritten.announced, hwritten.stale⟩
  | @announced _ target _ row action _ _ hevent hcurrent _ hinitial hperformedAt _ _ =>
    have hwritten := hordered.recordWrite hcurrent.status hperformedAt
      fun operation hmem htarget =>
        hspaced.writes operation hmem (htarget ▸ Event.writesTo_of_announces hevent)
    refine ⟨hwritten.rows, ?_, hwritten.stale⟩
    intro operation hmem
    rcases List.mem_append.mp hmem with hmem | hmem
    · exact hwritten.announced operation hmem
    · cases List.mem_singleton.mp hmem
      refine ⟨Nat.lt_succ_self _, row, system.writes, ?_, AList.lookup_insert _, ?_, ?_⟩
      · exact (congrArg (AList.lookup target) hcurrent.status).trans (AList.lookup_insert _)
      · intro _
        refine ⟨hperformedAt, rfl, ?_⟩
        rw [hinitial]
        exact (initialStatus_eq action).imp_right .inl
      · exact fun hother => absurd rfl hother
  | acknowledged status _ => exact hordered.acknowledged status
  | read => exact hordered.readStale
  | resolved _ => exact hordered.update fun owner row howns _ => ⟨howns.1, .inr (.inr rfl)⟩
  | undeployed hcurrent _ _ hperformedAt =>
    exact hordered.recordWrite hcurrent.status hperformedAt fun operation hmem htarget =>
      hspaced.writes operation hmem (htarget ▸ rfl)
  | saved | secretCreated | deprecated =>
    exact ⟨hordered.rows, hordered.announced, hordered.stale⟩

/-! ## Late messages -/

theorem Tracked.changesOnly {target : Target} {performedAt : Nat} {own : StatusRow → Prop}
    (htracked : system.Tracked target performedAt number own) (newStatus : DeploymentStatus)
    (reason : String) (required : List DeploymentStatus) :
    system.ChangesOnly
      { system with
        db := system.db.updateStatusWithPerformedAtGuard target newStatus reason performedAt
          required system.now } target number := by
  intro other hother
  unfold updateStatusWithPerformedAtGuard
  split
  · rfl
  · next row hguard =>
      refine AList.lookup_insert_ne fun htarget => hother ⟨htarget, ?_⟩
      -- the times agree, so that no other write can have come
      obtain ⟨hrow, hperformedAt, -⟩ := guardedRow_eq_some_iff.mp hguard
      obtain ⟨found, last, hfound, hlast, -, hlater⟩ := htracked
      obtain rfl := Option.some.inj (hrow.symm.trans hfound)
      by_contra hnot
      have hlt := hlater fun hsame => hnot (hsame ▸ hlast)
      omega

theorem lookup_update_of_guardedRow {db : DeploymentDB} {target : Target} {row : StatusRow}
    {performedAt now : Nat} {required : List DeploymentStatus}
    (hguard : db.guardedRow target performedAt required = some row) (newStatus : DeploymentStatus)
    (reason : String) :
    (db.updateStatusWithPerformedAtGuard target newStatus reason performedAt required
        now).deploymentStatus.lookup target =
      some { row with status := newStatus, statusReason := reason, updatedAt := now } := by
  rw [updateStatusWithPerformedAtGuard, hguard]
  exact AList.lookup_insert _

theorem recorded {status : AckStatus}
    (htracked : system.Tracked operation.target operation.performedAt operation.number
      operation.Owns) (hlatest : system.IsLatest operation.target operation.number)
    (hsuccess : status = .success →
      (system.db.deploymentStatus.lookup operation.target).map (·.status) ≠ some .failed) :
    ∃ row, (handleDeploymentAck system.db operation status system.now).deploymentStatus.lookup
        operation.target = some row ∧
      row.deploymentUUID = operation.deploymentID ∧ row.performedAt = operation.performedAt ∧
      status.RecordedIn row operation := by
  obtain ⟨row, last, hrow, hlast, hown, -⟩ := htracked
  obtain ⟨hperformedAt, hid, hcases⟩ := hown (Option.some.inj (hlast.symm.trans hlatest))
  cases status with
  | failed errorCode =>
    have hguard : system.db.guardedRow operation.target operation.performedAt [] = some row :=
      guardedRow_eq_some_iff.mpr ⟨hrow, hperformedAt, .inl rfl⟩
    exact ⟨_, lookup_update_of_guardedRow hguard _ _, hid, hperformedAt, rfl, rfl⟩
  | success =>
    rcases hcases with htransitional | hfinal | hfailed
    · have hguard : system.db.guardedRow operation.target operation.performedAt
          [operation.action.transitionalStatus] = some row :=
        guardedRow_eq_some_iff.mpr ⟨hrow, hperformedAt, .inr (by simpa)⟩
      exact ⟨_, lookup_update_of_guardedRow hguard _ _, hid, hperformedAt, rfl⟩
    · -- the operation is complete already
      have hguard : system.db.guardedRow operation.target operation.performedAt
          [operation.action.transitionalStatus] = none := by
        rw [Option.eq_none_iff_forall_ne_some]
        intro found hfound
        obtain ⟨hfound, -, hrequired⟩ := guardedRow_eq_some_iff.mp hfound
        obtain rfl := Option.some.inj (hrow.symm.trans hfound)
        rw [hfinal] at hrequired
        cases haction : operation.action <;>
          simp [haction, finalStatus, transitionalStatus]
            at hrequired
      refine ⟨row, ?_, hid, hperformedAt, hfinal⟩
      rw [handleDeploymentAck, updateStatusWithPerformedAtGuard, hguard]
      exact hrow
    · rw [hrow, Option.map_some, hfailed] at hsuccess
      exact absurd rfl (hsuccess rfl)

theorem Ordered.respects (hordered : system.Ordered) (hspaced : system.Spaced event) :
    system.Respects config event := by
  cases event with
  | ack operation status =>
    intro hmem
    have htracked := (hordered.announced operation hmem).2
    have hstep : system.step config (.ack operation status) =
        { system with db := handleDeploymentAck system.db operation status system.now } :=
      if_pos hmem
    rw [hstep]
    constructor
    · cases status with
      | success | failed errorCode => exact htracked.changesOnly _ _ _
    · intro hlatest
      exact recorded htracked hlatest fun hstatus =>
        hspaced.successes operation hmem (hstatus ▸ rfl) hlatest
  | resolveStale entry =>
    intro hmem
    have hstep : system.step config (.resolveStale entry) =
        { system with
          db := system.db.updateStatusWithPerformedAtGuard entry.target .failed
            deploymentErrorTimeout entry.performedAt [entry.status] system.now } :=
      if_pos hmem
    rw [hstep]
    exact (hordered.stale entry hmem).2.2.changesOnly _ _ _
  | _ => trivial

end System

/-- In a run whose operations are spaced, every acknowledgement and every timeout respects
the rows of later operations. -/
theorem respects_of_spaced (config : DeploymentConfig) (events : List Event) (event : Event)
    (hspaced : Conforms (step config) System.Spaced start (events ++ [event])) :
    (run (step config) start events).Respects config event := by
  have hstep : ∀ system event, System.WellFormed system ∧ System.Ordered system →
      System.Spaced system event →
      (step config system event).WellFormed ∧ (step config system event).Ordered := by
    intro system event hsystem hspaced
    exact ⟨hsystem.1.step event,
      hsystem.2.transition hspaced (step_transition hsystem.1 event)⟩
  have hreached := Conforms.invariant hstep ⟨wellFormed_start, ordered_start⟩
    hspaced.of_append
  exact hreached.2.respects hspaced.allowed

section Samples

def firstOperation : Operation := ⟨petsOnEdge, "d1", .deploy, 0, 1⟩

def deployTwice (elapsed : Nat) : List Event :=
  let first := petsDeployment "d1" ""
  let second := petsDeployment "d2" ""
  [.createDeployment first, .setDeployed first, .tick elapsed, .createDeployment second,
    .setDeployed second]

end Samples

/-- A millisecond between the operations is enough. -/
theorem late_failure_ignored :
    (run (step transitional) start (deployTwice 1)).Respects transitional
      (.ack firstOperation (.failed "CONFIG")) :=
  respects_of_spaced transitional (deployTwice 1) _ (by decide +kernel)

/-- The failure of the first operation is recorded for the second one. -/
theorem late_failure_recorded :
    ¬ (run (step transitional) start (deployTwice 0)).Respects transitional
      (.ack firstOperation (.failed "CONFIG")) := by
  intro hrespects
  have hunchanged := (hrespects (by decide +kernel)).1 petsOnEdge (by decide +kernel)
  exact absurd hunchanged (by decide +kernel)

end ApiPlatform.PlatformApi
