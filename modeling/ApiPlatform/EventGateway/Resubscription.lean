import ApiPlatform.EventGateway.Snapshots
import ApiPlatform.EventGateway.Sync

/-!
# Subscriptions across an update

An update of a WebSub API removes its binding and adds it again.  The new receiver
replays the sync topic of the API, which is one of the topics that the removal has
asked the broker to delete.  A call of `HandleResources` is followed here together
with the broker and the stores of the receivers; forgetting these two gives the call
on the runtime alone.
-/

namespace ApiPlatform.EventGateway

open Foundation

/-! ## A call and the broker -/

abbrev Broker := String → List SyncRecord

/-- The broker carries out the deletion of a topic or refuses it. -/
def deleteTopics (deletes : String → Bool) (topics : List String) (broker : Broker) : Broker :=
  fun topic => if topic ∈ topics ∧ deletes topic then [] else broker topic

/-- The topics that the removal of a binding asks the broker to delete. -/
def removalTopics (runtime : Runtime) (ecr : EventChannelResource) : List String :=
  if ecr.kind = "WebSubApi" then runtime.topicsToDelete ecr.name else []

structure Outside where
  deletes : String → Bool
  newID : Nat → String
  runtimeID : String

/-- The runtime, the records of each topic, and the store of the receiver of each binding. -/
structure Deployment where
  runtime : Runtime
  broker : Broker
  stores : String → InMemoryStore

namespace Deployment

variable (cfg : HandlerConfig) (outside : Outside) (world : String → AddWorld)
  (current incoming : ResourceMap) (deployment : Deployment)

/-- The store of a receiver that has been started. -/
def reconcileSubscriptions (receiver : Receiver) : InMemoryStore :=
  if receiver.channel.internalSubTopic = "" then .new outside.runtimeID
  else reconcile outside.newID (.new outside.runtimeID)
    (deployment.broker receiver.channel.internalSubTopic)

def removeBinding (ecr : EventChannelResource) : Deployment :=
  { deployment with
    runtime := (EventGateway.removeBinding deployment.runtime ecr).1
    broker := deleteTopics outside.deletes (removalTopics deployment.runtime ecr)
      deployment.broker }

def addBinding (world : AddWorld) (ecr : EventChannelResource) : Deployment × Option String :=
  let (runtime, problem) := EventGateway.addBinding cfg world deployment.runtime ecr
  match problem, ecr.addition cfg with
  | none, some addition =>
    let store := deployment.reconcileSubscriptions outside addition.receiver
    ({ deployment with runtime, stores := Function.update deployment.stores ecr.name store }, none)
  | problem, _ => ({ deployment with runtime }, problem)

def removeAbsent (uuid : String) : Deployment :=
  match current.lookup uuid with
  | some old => if uuid ∈ incoming then deployment else deployment.removeBinding outside old
  | none => deployment

def applyResource (world : AddWorld) (ecr : EventChannelResource) (uuid : String) :
    Deployment × Option String :=
  match current.lookup uuid with
  | some old =>
    if old = ecr then (deployment, none)
    else (deployment.removeBinding outside old).addBinding cfg outside world ecr
  | none => deployment.addBinding cfg outside world ecr

def applyResources : Deployment → List String → Deployment × Option String
  | deployment, [] => (deployment, none)
  | deployment, uuid :: rest =>
    match incoming.lookup uuid with
    | none => applyResources deployment rest
    | some ecr =>
      match deployment.applyResource cfg outside current (world uuid) ecr uuid with
      | (deployment, some problem) =>
        (deployment, some ("failed to add binding \"" ++ ecr.name ++ "\": " ++ problem))
      | (deployment, none) => applyResources deployment rest

def handleResources (call : SnapshotCall) : Deployment × Option String :=
  let incoming := incomingResources call.resources
  let removed := (call.iteration.order 0 current.keys).foldl
    (removeAbsent outside current incoming) deployment
  applyResources cfg outside call.world current incoming removed
    (call.iteration.order 1 incoming.keys)

/-! ## Forgetting the broker -/

def forget (result : Deployment × Option String) : Runtime × Option String :=
  (result.1.runtime, result.2)

variable {cfg world current incoming deployment} {ecr : EventChannelResource}

theorem forget_addBinding {world : AddWorld} :
    forget (deployment.addBinding cfg outside world ecr) =
      EventGateway.addBinding cfg world deployment.runtime ecr := by
  unfold addBinding
  obtain ⟨runtime, problem⟩ := EventGateway.addBinding cfg world deployment.runtime ecr
  cases problem <;> cases ecr.addition cfg <;> rfl

theorem runtime_removeAbsent (uuid : String) :
    (deployment.removeAbsent outside current incoming uuid).runtime =
      EventGateway.removeAbsent current incoming deployment.runtime uuid := by
  unfold removeAbsent EventGateway.removeAbsent
  cases current.lookup uuid with
  | none => rfl
  | some old => simp only [apply_ite Deployment.runtime, removeBinding]

theorem forget_applyResource {world : AddWorld} (uuid : String) :
    forget (deployment.applyResource cfg outside current world ecr uuid) =
      EventGateway.applyResource cfg world current deployment.runtime ecr uuid := by
  unfold applyResource EventGateway.applyResource
  cases current.lookup uuid with
  | none => exact forget_addBinding outside
  | some old =>
    simp only [apply_ite forget, forget_addBinding]
    rfl

theorem forget_applyResources (uuids : List String) : ∀ {deployment : Deployment},
    forget (applyResources cfg outside world current incoming deployment uuids) =
      EventGateway.applyResources cfg world current incoming deployment.runtime uuids := by
  induction uuids with
  | nil => exact rfl
  | cons uuid rest ih =>
    intro deployment
    unfold applyResources EventGateway.applyResources
    cases incoming.lookup uuid with
    | none => exact ih
    | some ecr =>
      simp only [← forget_applyResource outside]
      obtain ⟨next, problem⟩ :=
        deployment.applyResource cfg outside current (world uuid) ecr uuid
      cases problem with
      | none => exact ih
      | some problem => rfl

theorem handleResources_eq {handler : Handler} (hruntime : deployment.runtime = handler.runtime)
    (call : SnapshotCall) :
    let result := deployment.handleResources cfg outside handler.current call
    EventGateway.handleResources cfg handler call =
      (⟨if result.2 = none then incomingResources call.resources else handler.current,
        result.1.runtime⟩, result.2) := by
  have hremoved : ∀ uuids : List String,
      (uuids.foldl (removeAbsent outside handler.current (incomingResources call.resources))
        deployment).runtime = uuids.foldl (EventGateway.removeAbsent handler.current
          (incomingResources call.resources)) deployment.runtime :=
    fun uuids => (List.foldl_hom runtime fun _ uuid =>
      (runtime_removeAbsent outside uuid).symm).symm
  rw [EventGateway.handleResources, ← hruntime, ← hremoved, ← forget_applyResources outside]
  unfold handleResources
  dsimp only
  obtain ⟨next, problem⟩ := applyResources cfg outside call.world handler.current _ _ _
  cases problem <;> rfl

/-! ## Calls that leave a name alone -/

variable {outside} {uuid name : String}

theorem addBinding_ok {world : AddWorld}
    (hok : (deployment.addBinding cfg outside world ecr).2 = none) :
    ∃ addition, ecr.addition cfg = some addition ∧
      (deployment.addBinding cfg outside world ecr).1 =
        ⟨deployment.runtime.installed addition, deployment.broker,
          Function.update deployment.stores addition.name
            (deployment.reconcileSubscriptions outside addition.receiver)⟩ := by
  cases haddition : ecr.addition cfg with
  | none =>
    simp [addBinding, addBinding_eq, haddition] at hok
  | some addition =>
    have hadd : EventGateway.addBinding cfg world deployment.runtime ecr =
        deployment.runtime.add world addition := by
      rw [addBinding_eq, haddition, Option.elim_some]
    have hnone : (deployment.runtime.add world addition).2 = none := by
      rw [← hadd, ← forget_addBinding outside]
      exact hok
    refine ⟨addition, rfl, ?_⟩
    rw [addBinding, hadd, haddition, ← Runtime.add_ok hnone,
      EventChannelResource.name_of_addition haddition]
    simp only [hnone]

/-- What removals and additions under other names keep. -/
structure Stable (outside : Outside) (name : String) (holds : Deployment → Prop) : Prop where
  removed : ∀ deployment (ecr : EventChannelResource), ecr.name ≠ name → holds deployment →
    holds (deployment.removeBinding outside ecr)
  installed : ∀ deployment (addition : Addition) store, addition.name ≠ name →
    holds deployment → holds ⟨deployment.runtime.installed addition, deployment.broker,
      Function.update deployment.stores addition.name store⟩

/-- No other resource that is added, changed or removed has the name. -/
def Alone (current incoming : ResourceMap) (uuid name : String) : Prop :=
  ∀ other ≠ uuid, current.lookup other ≠ incoming.lookup other → ∀ ecr,
    current.lookup other = some ecr ∨ incoming.lookup other = some ecr → ecr.name ≠ name

variable {holds before after : Deployment → Prop}

theorem Stable.removeAbsent (hstable : Stable outside name holds)
    (halone : Alone current incoming uuid name) (huuid : uuid ∈ incoming) (other : String)
    (hholds : holds deployment) :
    holds (deployment.removeAbsent outside current incoming other) := by
  unfold Deployment.removeAbsent
  cases hold : current.lookup other with
  | none => exact hholds
  | some old =>
    by_cases hincoming : other ∈ incoming
    · simpa only [if_pos hincoming] using hholds
    · simp only [if_neg hincoming]
      have hne : other ≠ uuid := fun heq => hincoming (heq ▸ huuid)
      have hchanged : current.lookup other ≠ incoming.lookup other := by
        rw [hold, AList.lookup_eq_none.mpr hincoming]
        nofun
      exact hstable.removed deployment old (halone other hne hchanged old (.inl hold)) hholds

theorem Stable.addBinding (hstable : Stable outside name holds) {world : AddWorld}
    (hname : ecr.name ≠ name) (hok : (deployment.addBinding cfg outside world ecr).2 = none)
    (hholds : holds deployment) : holds (deployment.addBinding cfg outside world ecr).1 := by
  obtain ⟨addition, haddition, hresult⟩ := addBinding_ok hok
  rw [← EventChannelResource.name_of_addition haddition] at hname
  rw [hresult]
  exact hstable.installed deployment addition _ hname hholds

theorem Stable.applyResource (hstable : Stable outside name holds) {world : AddWorld}
    {other : String} (halone : Alone current incoming uuid name) (hne : other ≠ uuid)
    (hincoming : incoming.lookup other = some ecr)
    (hok : (deployment.applyResource cfg outside current world ecr other).2 = none)
    (hholds : holds deployment) :
    holds (deployment.applyResource cfg outside current world ecr other).1 := by
  unfold Deployment.applyResource at *
  cases hold : current.lookup other with
  | none =>
    rw [hold] at hok
    have hname := halone other hne (by rw [hold, hincoming]; nofun) ecr (.inr hincoming)
    exact hstable.addBinding hname hok hholds
  | some old =>
    rw [hold] at hok
    by_cases hsame : old = ecr
    · simpa only [if_pos hsame] using hholds
    · simp only [if_neg hsame] at hok ⊢
      have hchanged : current.lookup other ≠ incoming.lookup other := by
        rw [hold, hincoming]
        exact fun heq => hsame (Option.some.inj heq)
      have hremoved := hstable.removed deployment old
        (halone other hne hchanged old (.inl hold)) hholds
      exact hstable.addBinding (halone other hne hchanged ecr (.inr hincoming)) hok hremoved

theorem applyResources_cons {rest : List String} (hincoming : incoming.lookup uuid = some ecr)
    (hok : (applyResources cfg outside world current incoming deployment (uuid :: rest)).2 = none) :
    let next := deployment.applyResource cfg outside current (world uuid) ecr uuid
    next.2 = none ∧ applyResources cfg outside world current incoming deployment (uuid :: rest) =
      applyResources cfg outside world current incoming next.1 rest := by
  simp only [applyResources, hincoming] at hok ⊢
  revert hok
  obtain ⟨next, problem⟩ := deployment.applyResource cfg outside current (world uuid) ecr uuid
  cases problem with
  | some problem => nofun
  | none => exact fun _ => ⟨rfl, rfl⟩

/-- The resources up to one of them and those after it; its own step leads from what holds before to
what holds after. -/
theorem applyResources_through (halone : Alone current incoming uuid name)
    (hincoming : incoming.lookup uuid = some ecr) (hbefore : Stable outside name before)
    (hafter : Stable outside name after)
    (hstep : ∀ deployment,
      (deployment.applyResource cfg outside current (world uuid) ecr uuid).2 = none →
      before deployment →
        after (deployment.applyResource cfg outside current (world uuid) ecr uuid).1) :
    ∀ (uuids : List String) {deployment : Deployment}, uuids.Nodup →
      (applyResources cfg outside world current incoming deployment uuids).2 = none →
      (uuid ∈ uuids → before deployment →
        after (applyResources cfg outside world current incoming deployment uuids).1) ∧
      (uuid ∉ uuids → after deployment →
        after (applyResources cfg outside world current incoming deployment uuids).1) := by
  intro uuids
  induction uuids with
  | nil => exact fun _ _ => ⟨nofun, fun _ hholds => hholds⟩
  | cons other rest ih =>
    intro deployment hnodup hok
    obtain ⟨hother, hrest⟩ := List.nodup_cons.mp hnodup
    cases hlookup : incoming.lookup other with
    | none =>
      have hskip : applyResources cfg outside world current incoming deployment (other :: rest) =
          applyResources cfg outside world current incoming deployment rest := by
        simp only [applyResources, hlookup]
      rw [hskip] at hok ⊢
      have hne : uuid ≠ other := ne_of_lookup hincoming hlookup
      simpa only [List.mem_cons, hne, false_or] using ih hrest hok
    | some resource =>
      obtain ⟨hnext, hresult⟩ := applyResources_cons hlookup hok
      rw [hresult] at hok ⊢
      obtain ⟨hthrough, hpast⟩ := ih hrest hok
      by_cases hne : other = uuid
      · subst hne
        obtain rfl := Option.some.inj (hincoming.symm.trans hlookup)
        refine ⟨fun _ hholds => hpast hother (hstep deployment hnext hholds), fun habsent => ?_⟩
        exact absurd List.mem_cons_self habsent
      · have hmem : uuid ∈ other :: rest ↔ uuid ∈ rest := by
          simp [Ne.symm hne]
        rw [hmem]
        exact ⟨fun hin hholds => hthrough hin
          (hbefore.applyResource halone hne hlookup hnext hholds),
          fun hout hholds => hpast hout (hafter.applyResource halone hne hlookup hnext hholds)⟩

theorem handleResources_through {call : SnapshotCall}
    (halone : Alone current (incomingResources call.resources) uuid name)
    (hincoming : (incomingResources call.resources).lookup uuid = some ecr)
    (hbefore : Stable outside name before) (hafter : Stable outside name after)
    (hstep : ∀ deployment,
      (deployment.applyResource cfg outside current (call.world uuid) ecr uuid).2 = none →
      before deployment →
        after (deployment.applyResource cfg outside current (call.world uuid) ecr uuid).1)
    (hok : (deployment.handleResources cfg outside current call).2 = none)
    (hholds : before deployment) :
    after (deployment.handleResources cfg outside current call).1 := by
  have huuid := mem_of_lookup hincoming
  have hremoved : before (run (removeAbsent outside current (incomingResources call.resources))
      deployment (call.iteration.order 0 current.keys)) :=
    run_invariant (fun _ other hvalid => hbefore.removeAbsent halone huuid other hvalid) hholds _
  have hperm := call.iteration.perm 1 (incomingResources call.resources).keys
  exact (applyResources_through halone hincoming hbefore hafter hstep _
    (hperm.nodup_iff.mpr (AList.keys_nodup _)) hok).1 (hperm.mem_iff.mpr huuid) hremoved

theorem applyResource_of_ne {world : AddWorld} (hchanged : current.lookup uuid ≠ some ecr) :
    deployment.applyResource cfg outside current world ecr uuid =
      ((current.lookup uuid).elim deployment (deployment.removeBinding outside)).addBinding cfg
        outside world ecr := by
  unfold applyResource
  cases hold : current.lookup uuid with
  | none => rfl
  | some old => exact if_neg fun hsame : old = ecr => hchanged (hsame ▸ hold)

end Deployment

/-! ## Deployed APIs -/

/-- The runtime has a broker driver for the WebSub API and knows its topics. -/
structure EventChannelResource.Deployed (cfg : HandlerConfig) (ecr : EventChannelResource)
    (runtime : Runtime) : Prop where
  driver : runtime.activeBrokerDrivers.lookup ecr.name ≠ none
  topics : runtime.bindingTopics.lookup ecr.name =
    ((toWebSubApiBinding cfg ecr).addition cfg.runtime).topics

variable {cfg : HandlerConfig} {outside : Outside} {handler : Handler} {call : SnapshotCall}
  {ecr : EventChannelResource} {runtime : Runtime}

theorem deployed_installed (ecr : EventChannelResource) (runtime : Runtime) :
    ecr.Deployed cfg
      (runtime.installed ((toWebSubApiBinding cfg ecr).addition cfg.runtime)) where
  driver := by
    have hlookup := AList.lookup_insert (a := ecr.name)
      (b := resolvedDriver (toWebSubApiBinding cfg ecr).brokerDriver) runtime.activeBrokerDrivers
    exact Option.ne_none_iff_exists'.mpr ⟨_, hlookup⟩
  topics := AList.lookup_insert _

theorem EventChannelResource.Deployed.stable (outside : Outside) :
    Deployment.Stable outside ecr.name fun deployment => ecr.Deployed cfg deployment.runtime where
  removed := by
    rintro deployment other hname ⟨hdriver, htopics⟩
    unfold Deployment.removeBinding removeBinding
    split_ifs
    · refine ⟨?_, ?_⟩
      · simpa [removeWebSubApiBinding, Runtime.removeTables, lookup_erase_eq, hname.symm]
          using hdriver
      · simp only [removeWebSubApiBinding]
        split
        · rw [AList.lookup_erase_ne hname.symm, htopics]
        · exact htopics
    · refine ⟨?_, htopics⟩
      simpa [removeWebBrokerApiBinding, Runtime.removeTables, lookup_erase_eq, hname.symm]
        using hdriver
    · exact ⟨hdriver, htopics⟩
  installed := by
    rintro deployment addition store hname ⟨hdriver, htopics⟩
    refine ⟨?_, ?_⟩
    · simpa [Runtime.installed, Runtime.trackReceiver, Runtime.trackBrokerDriver,
        Runtime.registerBinding, lookup_insert_eq, hname.symm] using hdriver
    · simp only [Runtime.installed, Runtime.trackReceiver, Runtime.trackBrokerDriver,
        Runtime.registerBinding]
      split
      · rw [AList.lookup_insert_ne hname.symm, htopics]
      · exact htopics

theorem EventChannelResource.Deployed.syncTopic_mem (hkind : ecr.kind = "WebSubApi")
    (hdeployed : ecr.Deployed cfg runtime) :
    (toWebSubApiBinding cfg ecr).internalSubTopic cfg.runtime ∈ removalTopics runtime ecr := by
  obtain ⟨driver, hdriver⟩ := Option.ne_none_iff_exists'.mp hdeployed.driver
  rw [removalTopics, if_pos hkind, Runtime.topicsToDelete, hdriver, hdeployed.topics]
  exact List.mem_append_right _ (List.mem_singleton_self _)

/-- A WebSub API that a successful call adds or updates, alone under its name, is deployed. -/
theorem deployed_handleResources {uuid : String}
    (halone : Deployment.Alone handler.current (incomingResources call.resources) uuid ecr.name)
    (hincoming : (incomingResources call.resources).lookup uuid = some ecr)
    (hchanged : handler.current.lookup uuid ≠ some ecr) (hkind : ecr.kind = "WebSubApi")
    (hok : (handleResources cfg handler call).2 = none) :
    ecr.Deployed cfg (handleResources cfg handler call).1.runtime := by
  let deployment : Deployment := ⟨handler.runtime, fun _ => [], fun _ => .new ""⟩
  let outside : Outside := ⟨fun _ => false, fun _ => "", ""⟩
  have hruntime : deployment.runtime = handler.runtime := rfl
  rw [Deployment.handleResources_eq outside hruntime call] at hok ⊢
  have hbefore : Deployment.Stable outside ecr.name fun _ => True :=
    ⟨fun _ _ _ _ => trivial, fun _ _ _ _ _ => trivial⟩
  refine Deployment.handleResources_through halone hincoming hbefore
    (EventChannelResource.Deployed.stable outside) ?_ hok trivial
  intro deployment hnext _
  rw [Deployment.applyResource_of_ne hchanged] at hnext ⊢
  obtain ⟨addition, haddition, hresult⟩ := Deployment.addBinding_ok hnext
  rw [EventChannelResource.addition, if_pos hkind] at haddition
  obtain rfl := Option.some.inj haddition
  rw [hresult]
  exact deployed_installed ecr _

/-! ## The restarted receiver -/

/-- An update of a deployed WebSub API that keeps its UUID, name and version. -/
structure ApiUpdate (cfg : HandlerConfig) (handler : Handler) (call : SnapshotCall) where
  uuid : String
  old : EventChannelResource
  new : EventChannelResource
  current : handler.current.lookup uuid = some old
  incoming : (incomingResources call.resources).lookup uuid = some new
  changed : old ≠ new
  oldKind : old.kind = "WebSubApi"
  newKind : new.kind = "WebSubApi"
  name : new.name = old.name
  version : new.version = old.version
  deployed : old.Deployed cfg handler.runtime
  alone : Deployment.Alone handler.current (incomingResources call.resources) uuid old.name

namespace ApiUpdate

variable (update : ApiUpdate cfg handler call)

def syncTopic : String :=
  (toWebSubApiBinding cfg update.old).internalSubTopic cfg.runtime

theorem receiver_internalSubTopic :
    ((toWebSubApiBinding cfg update.new).addition cfg.runtime).receiver.channel.internalSubTopic =
      update.syncTopic := by
  have hname : (toWebSubApiBinding cfg update.new).name =
      (toWebSubApiBinding cfg update.old).name := update.name
  have hversion : (toWebSubApiBinding cfg update.new).version =
      (toWebSubApiBinding cfg update.old).version := update.version
  show (toWebSubApiBinding cfg update.new).internalSubTopic cfg.runtime = _
  rw [syncTopic, WebSubApiBinding.internalSubTopic, WebSubApiBinding.internalSubTopic, hname,
    hversion]

/-- The API is deployed, and its sync topic is untouched unless the broker deletes it on request. -/
def Awaiting (outside : Outside) (records : List SyncRecord) (deployment : Deployment) : Prop :=
  update.old.Deployed cfg deployment.runtime ∧
    (outside.deletes update.syncTopic = false → deployment.broker update.syncTopic = records)

variable {update} {deployment : Deployment} {records : List SyncRecord}

theorem Awaiting.stable :
    Deployment.Stable outside update.old.name (update.Awaiting outside records) where
  removed := by
    rintro deployment other hname ⟨hdeployed, hrecords⟩
    refine ⟨(EventChannelResource.Deployed.stable outside).removed _ other hname hdeployed, ?_⟩
    intro hkept
    simpa [Deployment.removeBinding, deleteTopics, hkept] using hrecords hkept
  installed := by
    rintro deployment addition store hname ⟨hdeployed, hrecords⟩
    exact ⟨(EventChannelResource.Deployed.stable outside).installed _ addition store hname
      hdeployed,
      hrecords⟩

/-- The removal of the old binding deletes the topic from which the new receiver starts. -/
theorem Awaiting.stores_applyResource (hawaiting : update.Awaiting outside records deployment)
    (hsync : update.syncTopic ≠ "") {world : AddWorld}
    (hok : (deployment.applyResource cfg outside handler.current world update.new
      update.uuid).2 = none) :
    (deployment.applyResource cfg outside handler.current world update.new update.uuid).1.stores
        update.old.name =
      reconcile outside.newID (.new outside.runtimeID)
        (if outside.deletes update.syncTopic then [] else records) := by
  have hchanged : handler.current.lookup update.uuid ≠ some update.new := by
    rw [update.current]
    exact fun hsame => update.changed (Option.some.inj hsame)
  rw [Deployment.applyResource_of_ne hchanged, update.current] at hok ⊢
  obtain ⟨addition, haddition, hresult⟩ := Deployment.addBinding_ok hok
  rw [hresult, ← update.name, ← EventChannelResource.name_of_addition haddition]
  refine (Function.update_self ..).trans ?_
  rw [EventChannelResource.addition, if_pos update.newKind] at haddition
  obtain rfl := Option.some.inj haddition
  rw [Deployment.reconcileSubscriptions, receiver_internalSubTopic, if_neg hsync]
  have htopic := hawaiting.1.syncTopic_mem update.oldKind
  show reconcile _ _ (deleteTopics outside.deletes _ deployment.broker update.syncTopic) = _
  cases hdeletes : outside.deletes update.syncTopic with
  | false =>
    rw [deleteTopics, if_neg (by simp [hdeletes]), hawaiting.2 hdeletes]
    rfl
  | true =>
    rw [deleteTopics, if_pos ⟨htopic, hdeletes⟩]
    rfl

theorem stores_handleResources (update : ApiUpdate cfg handler call)
    (hruntime : deployment.runtime = handler.runtime) (hsync : update.syncTopic ≠ "")
    (hok : (handleResources cfg handler call).2 = none) :
    (deployment.handleResources cfg outside handler.current call).1.stores update.old.name =
      reconcile outside.newID (.new outside.runtimeID)
        (if outside.deletes update.syncTopic then [] else deployment.broker update.syncTopic) := by
  rw [Deployment.handleResources_eq outside hruntime call] at hok
  have hafter : ∀ store : InMemoryStore, Deployment.Stable outside update.old.name
      fun deployment => deployment.stores update.old.name = store := by
    refine fun store => ⟨fun _ _ _ hstore => hstore, fun _ addition _ hname hstore => ?_⟩
    exact (Function.update_of_ne hname.symm _ _).trans hstore
  refine Deployment.handleResources_through update.alone update.incoming Awaiting.stable
    (hafter _) (fun _ hnext hawaiting => hawaiting.stores_applyResource hsync hnext) hok ?_
  exact ⟨hruntime ▸ update.deployed, fun _ => rfl⟩

end ApiUpdate

def RecordedActive (log : List Publication) (sub : Subscription) : Prop :=
  lastRecord log sub.pair = some sub ∧ sub.state = .active

/-- The subscriptions recorded in the sync topic are active after an update if and only if there are
none or the broker refuses to delete the topic. -/
theorem subscribers_kept_iff (outside : Outside) (update : ApiUpdate cfg handler call)
    {deployment : Deployment} (hruntime : deployment.runtime = handler.runtime)
    (hok : (handleResources cfg handler call).2 = none) (hsync : update.syncTopic ≠ "")
    {log : List Publication} (hreplay : Replayable log)
    (hbroker : deployment.broker update.syncTopic = log.map Publication.record) :
    (∀ sub, RecordedActive log sub → (InMemoryStore.new outside.runtimeID).complete "" sub ∈
        ((deployment.handleResources cfg outside handler.current call).1.stores
          update.old.name).getActive) ↔
      (∀ sub, ¬ RecordedActive log sub) ∨ outside.deletes update.syncTopic = false := by
  rw [update.stores_handleResources hruntime hsync hok, hbroker]
  cases hdeletes : outside.deletes update.syncTopic with
  | true =>
    -- the new receiver replays an empty topic
    constructor
    · intro hkept
      refine .inl fun sub hrecorded => ?_
      exact List.not_mem_nil (hkept sub hrecorded)
    · rintro (hnone | hkept) sub hrecorded
      · exact absurd hrecorded (hnone sub)
      · cases hkept
  | false =>
    refine iff_of_true (fun sub hrecorded => ?_) (.inr rfl)
    exact (mem_getActive_reconcile outside.newID outside.runtimeID hreplay _).mpr
      ⟨hrecorded.2, sub, hrecorded.1, rfl⟩

def shopAt (context : String) : EventChannelResource :=
  { plainApi "u1" "shop" with context := context, channels := .slice [⟨"orders", ∅⟩] }

def deployedShop : Handler :=
  (handleResources testHandlerConfig .new (snapshot [] [shopAt "/shop"])).1

def movedShop : SnapshotCall :=
  snapshot [] [shopAt "/store"]

theorem alone_of_keys {current incoming : ResourceMap} {uuid : String}
    (hcurrent : current.keys ⊆ [uuid]) (hincoming : incoming.keys ⊆ [uuid]) (name : String) :
    Deployment.Alone current incoming uuid name := by
  intro other hne hchanged
  have hnone : ∀ {map : ResourceMap}, map.keys ⊆ [uuid] → map.lookup other = none :=
    fun hkeys => AList.lookup_eq_none.mpr fun hmem => hne (List.mem_singleton.mp (hkeys hmem))
  exact absurd ((hnone hcurrent).trans (hnone hincoming).symm) hchanged

theorem deployed_shopAt : (shopAt "/shop").Deployed testHandlerConfig deployedShop.runtime := by
  have hincoming : (incomingResources [shopAt "/shop"]).lookup "u1" = some (shopAt "/shop") := by
    decide +kernel
  exact deployed_handleResources (alone_of_keys (List.nil_subset _) (by decide +kernel) _)
    hincoming nofun rfl (by decide +kernel)

def shopUpdate : ApiUpdate testHandlerConfig deployedShop movedShop where
  uuid := "u1"
  old := shopAt "/shop"
  new := shopAt "/store"
  current := by decide +kernel
  incoming := by decide +kernel
  changed := by decide +kernel
  oldKind := rfl
  newKind := rfl
  name := rfl
  version := rfl
  deployed := deployed_shopAt
  alone := alone_of_keys (by decide +kernel) (by decide +kernel) _

def shopLog : List Publication :=
  [.subscription "r1" (leased "first" 60)]

/-- The shop before the update, with the subscription in its sync topic. -/
def subscribedShop : Deployment :=
  ⟨deployedShop.runtime, fun _ => shopLog.map Publication.record, fun _ => .new "r1"⟩

def subscribersAfter (deletes : String → Bool) : List Subscription :=
  ((subscribedShop.handleResources testHandlerConfig ⟨deletes, fun _ => "", "r1"⟩
    deployedShop.current movedShop).1.stores "shop").getActive

theorem subscriber_kept_when_deletion_refused :
    leased "first" 60 ∈ subscribersAfter fun _ => false := by
  have hreplay : Replayable shopLog := ⟨⟨by decide, nofun⟩, trivial⟩
  have hruntime : subscribedShop.runtime = deployedShop.runtime := rfl
  exact (subscribers_kept_iff ⟨fun _ => false, fun _ => "", "r1"⟩ shopUpdate hruntime
    (by decide +kernel) (by decide +kernel) hreplay rfl).mpr (.inr rfl) (leased "first" 60)
    ⟨by decide +kernel, rfl⟩

/-- The update of a deployed API loses its subscriber. -/
theorem subscriber_lost_by_update :
    (handleResources testHandlerConfig deployedShop movedShop).2 = none ∧
      lastRecord shopLog ("orders", "https://cb") = some (leased "first" 60) ∧
      (leased "first" 60).state = .active ∧ subscribersAfter (fun _ => true) = [] := by
  decide +kernel

end ApiPlatform.EventGateway
