import ApiPlatform.Foundation.Fallible
import ApiPlatform.EventGateway.WebSub
import ApiPlatform.EventGateway.SubscriptionStore

/-!
# Hub requests

`handleSubscribe` and `handleUnsubscribe` of `websub/handler.go` with the
verification of `verification.go`.  A subscription is stored before it is
verified and removed again when it is refused; an unsubscription changes the
consumer before the store is asked for the pair.
-/

namespace ApiPlatform.EventGateway

open Foundation

variable {store : InMemoryStore}

/-! ## State -/

structure InMemoryStore.Valid (store : InMemoryStore) : Prop where
  byID : ∀ id ref, store.byID.lookup id = some ref → ref < store.objects.length
  byTopic : ∀ topic callbackURL ref, lookupIn store.byTopic topic callbackURL = some ref →
    ref < store.objects.length

theorem InMemoryStore.Valid.add (hvalid : store.Valid) (generated : String) (sub : Subscription) :
    (store.add generated sub).Valid := by
  constructor
  · intro id ref hlookup
    rw [InMemoryStore.add, List.length_append, List.length_singleton]
    by_cases hid : id = (store.complete generated sub).id
    · rw [InMemoryStore.add, hid, AList.lookup_insert] at hlookup
      rw [← Option.some.inj hlookup]
      exact Nat.lt_succ_self _
    · rw [InMemoryStore.add, AList.lookup_insert_ne hid] at hlookup
      exact Nat.lt_succ_of_lt (hvalid.byID id ref hlookup)
  · intro topic callbackURL ref hlookup
    rw [InMemoryStore.add, List.length_append, List.length_singleton]
    rw [InMemoryStore.add, lookupIn_insertIn] at hlookup
    split at hlookup
    · rw [← Option.some.inj hlookup]
      exact Nat.lt_succ_self _
    · exact Nat.lt_succ_of_lt (hvalid.byTopic topic callbackURL ref hlookup)

theorem InMemoryStore.Valid.remove (hvalid : store.Valid) (topic callbackURL : String) :
    (store.remove topic callbackURL).1.Valid := by
  rw [InMemoryStore.remove]
  split
  · exact hvalid
  · split
    · exact hvalid
    · next sub _ =>
        constructor
        · exact fun id ref hlookup => hvalid.byID id ref (lookup_erase_eq_some_iff.mp hlookup).2
        · intro topic' callbackURL' ref hlookup
          rw [lookupIn_dropEmpty, lookupIn_eraseIn] at hlookup
          exact hvalid.byTopic _ _ _ (Option.ite_none_left_eq_some.mp hlookup).2

def InMemoryStore.modify (store : InMemoryStore) (ref : Nat)
    (change : Subscription → Subscription) : InMemoryStore :=
  { store with objects := store.objects.modify ref change }

theorem InMemoryStore.Valid.modify (hvalid : store.Valid) (ref : Nat)
    (change : Subscription → Subscription) : (store.modify ref change).Valid := by
  constructor
  · intro id other hlookup
    rw [InMemoryStore.modify, List.length_modify]
    exact hvalid.byID id other hlookup
  · intro topic callbackURL other hlookup
    rw [InMemoryStore.modify, List.length_modify]
    exact hvalid.byTopic topic callbackURL other hlookup

theorem InMemoryStore.Valid.updateState (hvalid : store.Valid) (id : String)
    (state : SubscriptionState) : (store.updateState id state).1.Valid := by
  rw [InMemoryStore.updateState]
  split
  · exact hvalid
  · exact hvalid.modify _ _

structure HubState where
  store : InMemoryStore
  valid : store.Valid
  manager : ConsumerManager

/-! ## Requests -/

/-- `topics` are the registered channels, `channels` their Kafka topics; `sync` says whether there
is a sync producer. -/
structure HubConfig where
  topics : List String
  channels : GoMap String String
  defaultLease : Int
  sync : Bool

structure HubForm where
  callback : String
  topic : String
  secret : String
  leaseSeconds : String
  deriving DecidableEq

structure HubRequest where
  method : String
  parsed : Bool
  mode : String
  form : HubForm
  deriving DecidableEq

structure HubResponse where
  status : Int
  body : String
  deriving DecidableEq

inductive PolicyOutcome where
  | failed
  | shortCircuited (response : Option (Int × String))
  | passed
  deriving DecidableEq

inductive Verification where
  | noChallenge
  | refused
  | confirmed
  deriving DecidableEq

/-- What the policies, the broker and the callback do during a request. -/
structure HubWorld where
  policy : PolicyOutcome
  topicExists : Option Bool
  verification : Verification
  newID : String
  now : Int
  consumer : BrokerOutcome
  inKafka : Option Bool
  deriving DecidableEq

def writePolicyResponse (response : Option (Int × String)) : HubResponse :=
  match response with
  | none => ⟨403, "forbidden by policy"⟩
  | some (status, body) => ⟨if 0 < status then status else 403, body⟩

def checkPolicy (policy : PolicyOutcome) : Except HubResponse Unit :=
  match policy with
  | .failed => .error ⟨500, "policy execution failed"⟩
  | .shortCircuited response => .error (writePolicyResponse response)
  | .passed => .ok ()

def require (holds : Bool) (status : Int) (body : String) : Except HubResponse Unit :=
  if holds then .ok () else .error ⟨status, body⟩

/-- The checks before a subscription is stored: the Kafka topic and the lease. -/
def checkSubscribe (config : HubConfig) (form : HubForm) (world : HubWorld) :
    Except HubResponse (String × Int) := do
  checkPolicy world.policy
  require (form.callback ≠ "") 400 "hub.callback is required"
  require (form.topic ≠ "") 400 "hub.topic is required"
  require (config.topics.contains form.topic) 404 ("topic not registered: " ++ form.topic)
  match config.channels.lookup form.topic with
  | none => .error ⟨404, "no kafka topic for channel: " ++ form.topic⟩
  | some kafkaTopic => do
    require world.topicExists.isSome 500 "failed to verify topic existence"
    require (world.topicExists = some true) 404
      ("topic does not exist in broker: " ++ kafkaTopic)
    if form.leaseSeconds = "" then .ok (kafkaTopic, config.defaultLease)
    else
      match atoi form.leaseSeconds with
      | none => .error ⟨400, "invalid hub.lease_seconds"⟩
      | some lease => .ok (kafkaTopic, lease)

def pendingSubscription (form : HubForm) (lease now : Int) : Subscription where
  id := ""
  topic := form.topic
  callbackURL := form.callback
  secret := form.secret
  leaseSeconds := lease
  expiresAt := none
  state := .pending
  createdAt := now
  runtimeID := ""

/-- In nanoseconds; the product is an `int64`, which wraps. -/
def expiryOf (lease now : Int) : Option Int :=
  if 0 < lease then some (now + (lease * 1000000000).bmod (2 ^ 64)) else none

/-- The verification of a stored subscription, and whether it succeeded. -/
def verifySubscribe (world : HubWorld) (state : HubState) (ref : Nat) (lease : Int) :
    HubState × Bool :=
  match world.verification with
  | .noChallenge => (state, false)
  | .refused =>
    ({ state with
       store := (state.store.updateState world.newID .inactive).1
       valid := state.valid.updateState world.newID .inactive }, false)
  | .confirmed =>
    let expiring := state.store.modify ref fun sub =>
      { sub with expiresAt := expiryOf lease world.now }
    ({ state with
       store := (expiring.updateState world.newID .active).1
       valid := (state.valid.modify ref _).updateState world.newID .active },
      (expiring.updateState world.newID .active).2.isNone)

def handleSubscribe (config : HubConfig) (form : HubForm) (world : HubWorld) (state : HubState) :
    HubResponse × HubState :=
  match checkSubscribe config form world with
  | .error response => (response, state)
  | .ok (kafkaTopic, lease) =>
    let sub := pendingSubscription form lease world.now
    let added : HubState :=
      { state with
        store := state.store.add world.newID sub
        valid := state.valid.add world.newID sub }
    match verifySubscribe world added state.store.objects.length lease with
    | (verified, false) =>
      (⟨403, "intent verification failed"⟩,
        { verified with
          store := (verified.store.remove form.topic form.callback).1
          valid := verified.valid.remove form.topic form.callback })
    | (verified, true) =>
      -- a consumer that cannot be started does not fail the subscription
      (⟨202, ""⟩,
        { verified with
          manager := (addSubscription verified.manager form.callback form.secret kafkaTopic
            world.consumer).1 })

def checkUnsubscribe (form : HubForm) (world : HubWorld) : Except HubResponse Unit := do
  checkPolicy world.policy
  require (form.callback ≠ "") 400 "hub.callback is required"
  require (form.topic ≠ "") 400 "hub.topic is required"
  require (world.verification = .confirmed) 403 "intent verification failed"

/-- Whether a pair that is not stored here is known to the other instances. -/
def checkElsewhere (config : HubConfig) (world : HubWorld) : Except HubResponse Unit := do
  require config.sync 404 "subscription not found"
  require world.inKafka.isSome 500 "failed to verify subscription"
  require (world.inKafka = some true) 404 "subscription not found"

def unsubscribeConsumer (config : HubConfig) (form : HubForm) (world : HubWorld)
    (manager : ConsumerManager) : ConsumerManager :=
  let kafkaTopic := (config.channels.lookup form.topic).getD ""
  if kafkaTopic ≠ "" then
    (removeSubscription manager form.callback kafkaTopic world.consumer).1
  else manager

def handleUnsubscribe (config : HubConfig) (form : HubForm) (world : HubWorld)
    (state : HubState) : HubResponse × HubState :=
  match checkUnsubscribe form world with
  | .error response => (response, state)
  | .ok () =>
    let stopped :=
      { state with manager := unsubscribeConsumer config form world state.manager }
    let removed : HubState :=
      { stopped with
        store := (state.store.remove form.topic form.callback).1
        valid := state.valid.remove form.topic form.callback }
    match (state.store.remove form.topic form.callback).2 with
    | none => (⟨202, ""⟩, removed)
    | some _ =>
      match checkElsewhere config world with
      | .error response => (response, removed)
      | .ok () => (⟨202, ""⟩, removed)

def serveHTTP (config : HubConfig) (request : HubRequest) (world : HubWorld) (state : HubState) :
    HubResponse × HubState :=
  if request.method ≠ "POST" then (⟨405, "method not allowed"⟩, state)
  else if request.parsed = false then (⟨400, "invalid form data"⟩, state)
  else if request.mode = "subscribe" then handleSubscribe config request.form world state
  else if request.mode = "unsubscribe" then handleUnsubscribe config request.form world state
  else (⟨400, "unknown hub.mode: " ++ request.mode⟩, state)

end ApiPlatform.EventGateway
