import ApiPlatform.EventGateway.HubHandler

/-!
# Refused hub requests

A request that is answered with an error leaves the active subscriptions and the
running consumers as they were, unless a refused subscription hides an active
one of its pair or an unknown unsubscription meets a consumer of its callback.
-/

namespace ApiPlatform.EventGateway

open Foundation

variable {id topic : String} {state : HubState} {world : HubWorld} {config : HubConfig}
  {form : HubForm}

/-! ## The property -/

def InMemoryStore.activeByID (store : InMemoryStore) (id : String) : Option Subscription :=
  ((store.byID.lookup id).bind (store.objects[·]?)).filter (·.state = .active)

def InMemoryStore.activeByPair (store : InMemoryStore) (topic callbackURL : String) :
    Option Subscription :=
  ((lookupIn store.byTopic topic callbackURL).bind (store.objects[·]?)).filter (·.state = .active)

def runningConsumer (manager : ConsumerManager) (callbackURL : String) : Option Consumer :=
  (manager.lookup callbackURL).bind fun managed => managed.consumer.filter (·.started)

structure HubState.Unchanged (before after : HubState) : Prop where
  byID : ∀ id, after.store.activeByID id = before.store.activeByID id
  byPair : ∀ topic callbackURL, after.store.activeByPair topic callbackURL =
    before.store.activeByPair topic callbackURL
  consumers : ∀ callbackURL, runningConsumer after.manager callbackURL =
    runningConsumer before.manager callbackURL

theorem HubState.Unchanged.refl (state : HubState) : state.Unchanged state :=
  ⟨fun _ => rfl, fun _ _ => rfl, fun _ => rfl⟩

/-! ## The condition -/

/-- The consumer that takes the place of one whose topic is removed. -/
def replacement (managed : ManagedConsumer) (kafkaTopic : String) (outcome : BrokerOutcome) :
    Option Consumer :=
  if managed.topics.erase kafkaTopic ≠ ∅ ∧ outcome = .started then
    some ⟨"", managed.topics.erase kafkaTopic, true⟩
  else none

/-- When a checked subscription is refused, its pair has no active subscription and the new ID is
not that of one. -/
def SubscribeUndone (config : HubConfig) (form : HubForm) (world : HubWorld) (state : HubState) :
    Prop :=
  (∃ checked, checkSubscribe config form world = .ok checked) → world.verification ≠ .confirmed →
    state.store.activeByPair form.topic form.callback = none ∧
      state.store.activeByID world.newID = none

/-- When an unsubscription is for a pair that is not known anywhere, the callback has no consumer,
or one that is not changed by being replaced. -/
def UnsubscribeUndone (config : HubConfig) (form : HubForm) (world : HubWorld)
    (state : HubState) : Prop :=
  checkUnsubscribe form world = .ok () →
    lookupIn state.store.byTopic form.topic form.callback = none →
    checkElsewhere config world ≠ .ok () →
    ∀ kafkaTopic, config.channels.lookup form.topic = some kafkaTopic → kafkaTopic ≠ "" →
      ∀ managed, state.manager.lookup form.callback = some managed →
        runningConsumer state.manager form.callback =
          replacement managed kafkaTopic world.consumer

def Undone (config : HubConfig) (request : HubRequest) (world : HubWorld) (state : HubState) :
    Prop :=
  request.method = "POST" → request.parsed = true →
    (request.mode = "subscribe" → SubscribeUndone config request.form world state) ∧
      (request.mode = "unsubscribe" → UnsubscribeUndone config request.form world state)

/-! ## Subscriptions -/

section Subscribe

variable {store : InMemoryStore}

/-- The store after a refused subscription is the old one without the pair and the new ID. -/
structure Withdrawn (store : InMemoryStore) (id topic callbackURL : String)
    (next : InMemoryStore) : Prop where
  byID : ∀ other, next.byID.lookup other = if other = id then none else store.byID.lookup other
  byTopic : ∀ topic' callbackURL', lookupIn next.byTopic topic' callbackURL' =
    if topic' = topic ∧ callbackURL' = callbackURL then none
    else lookupIn store.byTopic topic' callbackURL'
  objects : ∀ ref, ref < store.objects.length → next.objects[ref]? = store.objects[ref]?

theorem withdrawn_remove (store : InMemoryStore) (id : String) (sub : Subscription)
    (hid : sub.id = "") (change : Subscription → Subscription)
    (hchange : ∀ sub, (change sub).id = sub.id) :
    Withdrawn store id sub.topic sub.callbackURL
      (((store.add id sub).modify store.objects.length change).remove sub.topic
        sub.callbackURL).1 := by
  have hlookup : lookupIn ((store.add id sub).modify store.objects.length change).byTopic sub.topic
      sub.callbackURL = some store.objects.length := by
    rw [InMemoryStore.modify, InMemoryStore.add, lookupIn_insertIn, if_pos ⟨rfl, rfl⟩]
  have hobject : ((store.add id sub).modify store.objects.length change).objects[
      store.objects.length]? = some (change (store.complete id sub)) := by
    simp [InMemoryStore.modify, InMemoryStore.add]
  have hname : (change (store.complete id sub)).id = id := by
    rw [hchange]
    exact if_pos hid
  rw [remove_of_some hlookup hobject, hname]
  constructor
  · intro other
    have hinsert : (store.complete id sub).id = id := if_pos hid
    rw [lookup_erase_eq, InMemoryStore.modify, InMemoryStore.add, hinsert, lookup_insert_eq]
    by_cases hother : other = id <;> simp [hother]
  · intro topic' callbackURL'
    rw [lookupIn_dropEmpty, lookupIn_eraseIn]
    by_cases hpair : topic' = sub.topic ∧ callbackURL' = sub.callbackURL
    · rw [if_pos hpair, if_pos hpair]
    · rw [if_neg hpair, if_neg hpair, InMemoryStore.modify, InMemoryStore.add, lookupIn_insertIn]
      exact if_neg hpair
  · intro ref hlt
    have hne : store.objects.length ≠ ref := Nat.ne_of_gt hlt
    simp only [InMemoryStore.modify, InMemoryStore.add, List.getElem?_modify,
      List.getElem?_append_left hlt, if_neg hne]
    cases store.objects[ref]? <;> rfl

theorem Withdrawn.activeByID {callbackURL : String} {next : InMemoryStore}
    (hnext : Withdrawn store id topic callbackURL next) (hvalid : store.Valid) (other : String) :
    next.activeByID other = if other = id then none else store.activeByID other := by
  rw [InMemoryStore.activeByID, hnext.byID]
  by_cases hother : other = id
  · rw [if_pos hother, if_pos hother]
    rfl
  · rw [if_neg hother, if_neg hother, InMemoryStore.activeByID]
    cases hlookup : store.byID.lookup other with
    | none => rfl
    | some ref =>
      rw [Option.bind_some, Option.bind_some, hnext.objects ref (hvalid.byID other ref hlookup)]

theorem Withdrawn.activeByPair {callbackURL : String} {next : InMemoryStore}
    (hnext : Withdrawn store id topic callbackURL next) (hvalid : store.Valid)
    (topic' callbackURL' : String) :
    next.activeByPair topic' callbackURL' =
      if topic' = topic ∧ callbackURL' = callbackURL then none
      else store.activeByPair topic' callbackURL' := by
  rw [InMemoryStore.activeByPair, hnext.byTopic]
  by_cases hpair : topic' = topic ∧ callbackURL' = callbackURL
  · rw [if_pos hpair, if_pos hpair]
    rfl
  · rw [if_neg hpair, if_neg hpair, InMemoryStore.activeByPair]
    cases hlookup : lookupIn store.byTopic topic' callbackURL' with
    | none => rfl
    | some ref =>
      rw [Option.bind_some, Option.bind_some, hnext.objects ref (hvalid.byTopic _ _ ref hlookup)]

theorem Withdrawn.unchanged_iff {next : HubState} {callbackURL : String}
    (hnext : Withdrawn state.store id topic callbackURL next.store)
    (hmanager : next.manager = state.manager) :
    state.Unchanged next ↔
      state.store.activeByPair topic callbackURL = none ∧ state.store.activeByID id = none := by
  constructor
  · intro hsame
    have hpair := hsame.byPair topic callbackURL
    have hid := hsame.byID id
    rw [hnext.activeByPair state.valid, if_pos ⟨rfl, rfl⟩] at hpair
    rw [hnext.activeByID state.valid, if_pos rfl] at hid
    exact ⟨hpair.symm, hid.symm⟩
  · rintro ⟨hpair, hid⟩
    refine ⟨fun other => ?_, fun topic' callbackURL' => ?_, fun _ => by rw [hmanager]⟩
    · rw [hnext.activeByID state.valid]
      split
      · next hother => rw [hother, hid]
      · rfl
    · rw [hnext.activeByPair state.valid]
      split
      · next hother => rw [hother.1, hother.2, hpair]
      · rfl

theorem handleSubscribe_refused {checked : String × Int}
    (hchecked : checkSubscribe config form world = .ok checked)
    (hrefused : world.verification ≠ .confirmed) :
    (handleSubscribe config form world state).1.status = 403 ∧
      Withdrawn state.store world.newID form.topic form.callback
        (handleSubscribe config form world state).2.store ∧
      (handleSubscribe config form world state).2.manager = state.manager := by
  rw [handleSubscribe, hchecked]
  cases hverification : world.verification with
  | confirmed => exact absurd hverification hrefused
  | noChallenge =>
    simp only [verifySubscribe, hverification]
    refine ⟨trivial, ?_, trivial⟩
    have hwithdrawn := withdrawn_remove state.store world.newID
      (pendingSubscription form checked.2 world.now) rfl id fun _ => rfl
    rw [InMemoryStore.modify, List.modify_id] at hwithdrawn
    exact hwithdrawn
  | refused =>
    simp only [verifySubscribe, hverification]
    refine ⟨trivial, ?_, trivial⟩
    have hwithdrawn := withdrawn_remove state.store world.newID
      (pendingSubscription form checked.2 world.now) rfl
      (fun sub => { sub with state := .inactive }) fun _ => rfl
    have hstored : (state.store.add world.newID
        (pendingSubscription form checked.2 world.now)).byID.lookup world.newID =
        some state.store.objects.length :=
      AList.lookup_insert _
    rw [InMemoryStore.updateState, hstored]
    exact hwithdrawn

theorem handleSubscribe_confirmed {checked : String × Int}
    (hchecked : checkSubscribe config form world = .ok checked)
    (hconfirmed : world.verification = .confirmed) :
    (handleSubscribe config form world state).1.status = 202 := by
  rw [handleSubscribe, hchecked]
  simp only
  split
  · next verified hverified =>
      have hstored : (state.store.add world.newID
          (pendingSubscription form checked.2 world.now)).byID.lookup world.newID =
          some state.store.objects.length :=
        AList.lookup_insert _
      have htrue : (verifySubscribe world ⟨state.store.add world.newID
          (pendingSubscription form checked.2 world.now), state.valid.add world.newID _,
          state.manager⟩ state.store.objects.length checked.2).2 = true := by
        rw [verifySubscribe, hconfirmed]
        simp only [InMemoryStore.modify, InMemoryStore.updateState, hstored]
        rfl
      rw [hverified] at htrue
      cases htrue
  · rfl

theorem subscribe_undone_iff (config : HubConfig) (form : HubForm) (world : HubWorld)
    (state : HubState) :
    (400 ≤ (handleSubscribe config form world state).1.status →
        state.Unchanged (handleSubscribe config form world state).2) ↔
      SubscribeUndone config form world state := by
  cases hchecked : checkSubscribe config form world with
  | error response =>
    refine iff_of_true (fun _ => ?_) ?_
    · rw [handleSubscribe, hchecked]
      exact .refl state
    · rintro ⟨checked, hok⟩
      rw [hchecked] at hok
      cases hok
  | ok checked =>
    by_cases hconfirmed : world.verification = .confirmed
    · refine iff_of_true (fun hstatus => ?_) fun _ hrefused => absurd hconfirmed hrefused
      rw [handleSubscribe_confirmed hchecked hconfirmed] at hstatus
      exact absurd hstatus (by decide)
    · obtain ⟨hstatus, hwithdrawn, hmanager⟩ := handleSubscribe_refused hchecked hconfirmed
      rw [hstatus, hwithdrawn.unchanged_iff hmanager]
      exact ⟨fun hnone _ _ => hnone (by decide), fun hundone _ => hundone ⟨checked, hchecked⟩
        hconfirmed⟩

end Subscribe

/-! ## Unsubscriptions -/

section Unsubscribe

variable {manager : ConsumerManager} {callbackURL kafkaTopic : String} {outcome : BrokerOutcome}

theorem runningConsumer_insert (managed : ManagedConsumer) (other : String) :
    runningConsumer (manager.insert callbackURL managed) other =
      if other = callbackURL then managed.consumer.filter (·.started)
      else runningConsumer manager other := by
  rw [runningConsumer, runningConsumer, lookup_insert_eq]
  split <;> rfl

theorem runningConsumer_removeSubscription {managed : ManagedConsumer}
    (hentry : manager.lookup callbackURL = some managed) (other : String) :
    runningConsumer (removeSubscription manager callbackURL kafkaTopic outcome).1 other =
      if other = callbackURL then replacement managed kafkaTopic outcome
      else runningConsumer manager other := by
  rw [removeSubscription, hentry]
  simp only
  by_cases hempty : managed.topics.erase kafkaTopic = ∅
  · have hreplacement : replacement managed kafkaTopic outcome = none :=
      if_neg fun hrest => hrest.1 hempty
    rw [if_pos hempty, hreplacement, runningConsumer, runningConsumer, lookup_erase_eq]
    split <;> rfl
  · rw [if_neg hempty]
    cases outcome with
    | refused problem => simp [launch, runningConsumer_insert, replacement]
    | startFailed problem =>
      simp only [launch, runningConsumer_insert, replacement, reduceCtorEq, and_false, if_false]
      rfl
    | started =>
      simp only [launch, runningConsumer_insert, replacement, hempty, ne_eq, not_false_eq_true,
        and_self, if_true]
      rfl

theorem unchanged_unsubscribeConsumer_iff (manager : ConsumerManager) :
    (∀ other, runningConsumer (unsubscribeConsumer config form world manager) other =
        runningConsumer manager other) ↔
      ∀ kafkaTopic, config.channels.lookup form.topic = some kafkaTopic → kafkaTopic ≠ "" →
        ∀ managed, manager.lookup form.callback = some managed →
          runningConsumer manager form.callback =
            replacement managed kafkaTopic world.consumer := by
  rw [unsubscribeConsumer]
  cases hchannel : config.channels.lookup form.topic with
  | none => simp
  | some kafkaTopic =>
    simp only [Option.getD_some, Option.some.injEq, forall_eq']
    by_cases hempty : kafkaTopic = ""
    · simp [hempty]
    · rw [if_pos hempty]
      cases hentry : manager.lookup form.callback with
      | none => simp [removeSubscription, hentry]
      | some managed =>
        simp only [runningConsumer_removeSubscription hentry, Option.some.injEq, forall_eq']
        constructor
        · intro hall _
          have hcallback := hall form.callback
          rw [if_pos rfl] at hcallback
          exact hcallback.symm
        · intro hsame other
          split
          · next hother => rw [hother, hsame hempty]
          · rfl

theorem remove_error_of_none {store : InMemoryStore} {callbackURL : String}
    (hnone : lookupIn store.byTopic topic callbackURL = none) :
    ∃ problem, (store.remove topic callbackURL).2 = some problem := by
  rw [InMemoryStore.remove]
  rw [lookupIn] at hnone
  split
  · exact ⟨_, rfl⟩
  · next topicSubs htopic =>
      rw [htopic, Option.bind_some] at hnone
      rw [hnone]
      exact ⟨_, rfl⟩

theorem status_of_checkElsewhere {response : HubResponse}
    (herror : checkElsewhere config world = .error response) : 400 ≤ response.status := by
  have hrequire : ∀ {holds : Bool} {status : Int} {body : String}, 400 ≤ status →
      require holds status body = .error response → 400 ≤ response.status := by
    intro holds status body hstatus hfailed
    rw [require] at hfailed
    split_ifs at hfailed
    rw [← Except.error.inj hfailed]
    exact hstatus
  rw [checkElsewhere] at herror
  cases hsync : require config.sync 404 "subscription not found" with
  | error first =>
    rw [hsync] at herror
    exact hrequire (by decide) (hsync.trans herror)
  | ok _ =>
    rw [hsync] at herror
    cases hlookup : require world.inKafka.isSome 500 "failed to verify subscription" with
    | error second =>
      rw [hlookup] at herror
      exact hrequire (by decide) (hlookup.trans herror)
    | ok _ =>
      rw [hlookup] at herror
      exact hrequire (by decide) herror

theorem unsubscribe_undone_iff (config : HubConfig) (form : HubForm) (world : HubWorld)
    (state : HubState) :
    (400 ≤ (handleUnsubscribe config form world state).1.status →
        state.Unchanged (handleUnsubscribe config form world state).2) ↔
      UnsubscribeUndone config form world state := by
  rw [handleUnsubscribe, UnsubscribeUndone]
  cases hchecked : checkUnsubscribe form world with
  | error response => exact iff_of_true (fun _ => .refl state) (by simp)
  | ok _ =>
    cases hlookup : lookupIn state.store.byTopic form.topic form.callback with
    | some ref =>
      -- the pair is stored: the answer is 202
      have hobject := List.getElem?_eq_getElem (state.valid.byTopic _ _ ref hlookup)
      have hnone := congrArg Prod.snd (remove_of_some hlookup hobject)
      simp only [hnone]
      exact iff_of_true (fun hstatus => absurd (show (400 : Int) ≤ 202 from hstatus)
        (by decide)) (by simp)
    | none =>
      obtain ⟨problem, hproblem⟩ := remove_error_of_none hlookup
      simp only [hproblem, remove_of_none hlookup]
      cases helsewhere : checkElsewhere config world with
      | ok _ =>
        exact iff_of_true (fun hstatus => absurd (show (400 : Int) ≤ 202 from hstatus)
          (by decide)) (by simp)
      | error response =>
        have hstatus := status_of_checkElsewhere helsewhere
        simp only [hstatus, forall_const, ne_eq, reduceCtorEq, not_false_eq_true]
        rw [← unchanged_unsubscribeConsumer_iff state.manager]
        exact ⟨fun hsame => hsame.consumers, fun hsame => ⟨fun _ => rfl, fun _ _ => rfl, hsame⟩⟩

end Unsubscribe

/-- A hub request that is answered with an error changes neither the active subscriptions nor the
running consumers, if and only if what it did before the answer is undone. -/
theorem unchanged_iff_undone (config : HubConfig) (request : HubRequest) (world : HubWorld)
    (state : HubState) :
    (400 ≤ (serveHTTP config request world state).1.status →
        state.Unchanged (serveHTTP config request world state).2) ↔
      Undone config request world state := by
  rw [serveHTTP, Undone]
  by_cases hmethod : request.method = "POST"
  · cases hparsed : request.parsed with
    | false => simp [hmethod, HubState.Unchanged.refl]
    | true =>
      rw [if_neg (not_not.mpr hmethod), if_neg (by simp)]
      simp only [hmethod, forall_const]
      by_cases hsubscribe : request.mode = "subscribe"
      · rw [if_pos hsubscribe, subscribe_undone_iff]
        simp [hsubscribe]
      · rw [if_neg hsubscribe]
        by_cases hunsubscribe : request.mode = "unsubscribe"
        · rw [if_pos hunsubscribe, unsubscribe_undone_iff]
          simp [hunsubscribe]
        · rw [if_neg hunsubscribe]
          simp [hsubscribe, hunsubscribe, HubState.Unchanged.refl]
  · simp [hmethod, HubState.Unchanged.refl]

/-! ## Requests that are not undone -/

def ordersHub : HubConfig where
  topics := ["orders", "returns"]
  channels := ((∅ : GoMap String String).insert "orders" "k-orders").insert "returns" "k-returns"
  defaultLease := 60
  sync := false

def hubPost (mode topic : String) : HubRequest where
  method := "POST"
  parsed := true
  mode := mode
  form := ⟨"https://cb", topic, "s", ""⟩

def quietWorld (verification : Verification) (newID : String) : HubWorld where
  policy := .passed
  topicExists := some true
  verification := verification
  newID := newID
  now := 0
  consumer := .started
  inKafka := none

theorem valid_new (runtimeID : String) : (InMemoryStore.new runtimeID).Valid := by
  constructor
  · intro id ref hlookup
    simp [InMemoryStore.new] at hlookup
  · intro topic callbackURL ref hlookup
    simp [InMemoryStore.new, lookupIn] at hlookup

def subscribed : HubState :=
  (serveHTTP ordersHub (hubPost "subscribe" "orders") (quietWorld .confirmed "first")
    ⟨.new "r1", valid_new "r1", ∅⟩).2

/-- A refused renewal takes the subscription away, and an unsubscription that is answered with 404
the secret of the consumer. -/
theorem refused_requests_change_state :
    (serveHTTP ordersHub (hubPost "subscribe" "orders") (quietWorld .refused "second")
          subscribed).1.status = 403 ∧
      (subscribed.store.activeByPair "orders" "https://cb").isSome = true ∧
      (serveHTTP ordersHub (hubPost "subscribe" "orders") (quietWorld .refused "second")
          subscribed).2.store.activeByPair "orders" "https://cb" = none ∧
      (serveHTTP ordersHub (hubPost "unsubscribe" "returns") (quietWorld .confirmed "")
          subscribed).1.status = 404 ∧
      (runningConsumer subscribed.manager "https://cb").map (·.secret) = some "s" ∧
      (runningConsumer (serveHTTP ordersHub (hubPost "unsubscribe" "returns")
          (quietWorld .confirmed "") subscribed).2.manager "https://cb").map (·.secret) =
        some "" := by
  decide +kernel

end ApiPlatform.EventGateway
