import ApiPlatform.Foundation.GoMaps
import ApiPlatform.Foundation.GoStrings

/-!
# WebSub consumers and deliveries

`consumer_manager.go` and `delivery.go` of the WebSub receiver.  Each callback
has one consumer for all its topics, which is replaced whenever the topics
change; the secret that signs the deliveries is part of the consumer.
-/

namespace ApiPlatform.EventGateway

open Foundation

/-! ## Delivery -/

structure Message where
  topic : String
  headers : List (String × List String)
  value : List UInt8
  deriving DecidableEq

abbrev Header := List (String × String)

def Header.values (header : Header) (name : String) : List String :=
  (header.filter (equalFold ·.1 name)).map (·.2)

def Header.set (header : Header) (name value : String) : Header :=
  header.filter (!equalFold ·.1 name) ++ [(name, value)]

structure DeliveryRequest where
  url : String
  header : Header
  body : List UInt8
  deriving DecidableEq

def hopByHopHeaders : List String :=
  ["connection", "keep-alive", "te", "trailer", "transfer-encoding", "upgrade", "host"]

def internalHeaderPrefixes : List String :=
  ["proxy-", "x-internal-"]

def isForwardableHeader (name : String) : Bool :=
  let lower := toLower name
  !hopByHopHeaders.contains lower && !internalHeaderPrefixes.any (hasPrefix lower ·)

def forwardedHeader (message : Message) : Header :=
  message.headers.flatMap fun (name, values) =>
    if isForwardableHeader name then values.map (name, ·) else []

def signatureHeader : String := "X-Hub-Signature"

def deliveryRequest (sign : String → List UInt8 → String) (callbackURL secret : String)
    (message : Message) : DeliveryRequest :=
  let header := forwardedHeader message
  let header :=
    if (header.values "Content-Type").headD "" = "" then
      Header.set header "Content-Type" "application/octet-stream"
    else header
  let header :=
    if secret ≠ "" then
      Header.set header signatureHeader ("sha256=" ++ sign secret message.value)
    else header
  let header :=
    if message.topic ≠ "" then header ++ [("Link", "<" ++ message.topic ++ ">; rel=\"self\"")]
    else header
  { url := callbackURL, header := header, body := message.value }

def accepted (response : Option Nat) : Bool :=
  match response with
  | some status => 200 ≤ status && status < 300
  | none => false

/-- The requests that are sent: the same one again until it is accepted. -/
def deliverWithRetry (request : DeliveryRequest) : Nat → List (Option Nat) → List DeliveryRequest
  | 0, _ => [request]
  | _ + 1, [] => [request]
  | retries + 1, response :: rest =>
    if accepted response then [request]
    else request :: deliverWithRetry request retries rest

/-! ## Consumers -/

structure Consumer where
  secret : String
  topics : Finset String
  started : Bool
  deriving DecidableEq

def Consumer.stop (consumer : Consumer) : Consumer :=
  { consumer with started := false }

structure ManagedConsumer where
  consumer : Option Consumer
  topics : Finset String
  deriving DecidableEq

abbrev ConsumerManager := GoMap String ManagedConsumer

inductive BrokerOutcome where
  | refused (problem : String)
  | startFailed (problem : String)
  | started
  deriving DecidableEq

/-- The end of both calls: a consumer for the topics is created and started. -/
def launch (manager : ConsumerManager) (callbackURL : String) (managed : ManagedConsumer)
    (create start secret : String) (outcome : BrokerOutcome) : ConsumerManager × Option String :=
  match outcome with
  | .refused problem =>
    (manager.insert callbackURL managed,
      some ("failed to " ++ create ++ " consumer for callback " ++ callbackURL ++ ": " ++ problem))
  | .startFailed problem =>
    (manager.insert callbackURL
        { managed with consumer := some ⟨secret, managed.topics, false⟩ },
      some ("failed to " ++ start ++ " consumer for callback " ++ callbackURL ++ ": " ++ problem))
  | .started =>
    (manager.insert callbackURL
      { managed with consumer := some ⟨secret, managed.topics, true⟩ }, none)

def addSubscription (manager : ConsumerManager) (callbackURL secret kafkaTopic : String)
    (outcome : BrokerOutcome) : ConsumerManager × Option String :=
  match manager.lookup callbackURL with
  | some managed =>
    if kafkaTopic ∈ managed.topics then (manager, none)
    else
      launch manager callbackURL
        ⟨managed.consumer.map Consumer.stop, insert kafkaTopic managed.topics⟩
        "create" "start" secret outcome
  | none => launch manager callbackURL ⟨none, {kafkaTopic}⟩ "create" "start" secret outcome

def removeSubscription (manager : ConsumerManager) (callbackURL kafkaTopic : String)
    (outcome : BrokerOutcome) : ConsumerManager × Option String :=
  match manager.lookup callbackURL with
  | none => (manager, none)
  | some managed =>
    if managed.topics.erase kafkaTopic = ∅ then (manager.erase callbackURL, none)
    else
      -- the secret of the subscription is not known here
      launch manager callbackURL ⟨none, managed.topics.erase kafkaTopic⟩ "recreate" "restart" ""
        outcome

/-! ## The system -/

/-- `message` is a record of a topic that reaches the callback's consumer: the outbound
policies give the processed message, unless they fail or answer themselves. -/
inductive Event where
  | add (callbackURL secret kafkaTopic : String) (outcome : BrokerOutcome)
  | remove (callbackURL kafkaTopic : String) (outcome : BrokerOutcome)
  | message (callbackURL kafkaTopic : String) (processed : Option Message)
      (responses : List (Option Nat))
  deriving DecidableEq

/-- The manager, and the secret of the latest successful call for each subscribed pair. -/
structure System where
  manager : ConsumerManager
  secrets : GoMap (String × String) String

def System.initial : System :=
  ⟨∅, ∅⟩

def System.call (system : System) : Event → ConsumerManager × Option String
  | .add callbackURL secret kafkaTopic outcome =>
    addSubscription system.manager callbackURL secret kafkaTopic outcome
  | .remove callbackURL kafkaTopic outcome =>
    removeSubscription system.manager callbackURL kafkaTopic outcome
  | .message _ _ _ _ => (system.manager, none)

def System.subscribed (system : System) : Event → GoMap (String × String) String
  | .add callbackURL secret kafkaTopic _ => system.secrets.insert (callbackURL, kafkaTopic) secret
  | .remove callbackURL kafkaTopic _ => system.secrets.erase (callbackURL, kafkaTopic)
  | .message _ _ _ _ => system.secrets

def System.step (system : System) (event : Event) : System :=
  { manager := (system.call event).1
    secrets := if (system.call event).2 = none then system.subscribed event else system.secrets }

def System.running (system : System) (callbackURL : String) : Option Consumer :=
  (system.manager.lookup callbackURL).bind fun managed => managed.consumer.filter (·.started)

def System.topics (system : System) (callbackURL : String) : Finset String :=
  ((system.manager.lookup callbackURL).map (·.topics)).getD ∅

def System.deliveries (sign : String → List UInt8 → String) (maxRetries : Nat) (system : System) :
    Event → List DeliveryRequest
  | .message callbackURL kafkaTopic (some processed) responses =>
    match system.running callbackURL with
    | some consumer =>
      if kafkaTopic ∈ consumer.topics then
        deliverWithRetry (deliveryRequest sign callbackURL consumer.secret processed) maxRetries
          responses
      else []
    | none => []
  | _ => []

end ApiPlatform.EventGateway
