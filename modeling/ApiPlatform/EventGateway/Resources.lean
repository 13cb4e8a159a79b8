import ApiPlatform.EventGateway.Runtime

/-!
# Event-channel resources

`HandleResources` of `xdsclient/handler.go`.  A snapshot is compared by UUID with
the one that was last handled without an error; the runtime is then changed name
by name.  The handler stops at the first addition that fails and remembers the
snapshot only when all of them succeeded.
-/

namespace ApiPlatform.EventGateway

open Foundation

/-! ## Resources -/

abbrev PolicyLists := GoMap String (List PolicyRef)

def PolicyLists.phase (lists : PolicyLists) (name : String) : List PolicyRef :=
  (lists.lookup name).getD []

structure ChannelEntry where
  name : String
  policies : PolicyLists
  deriving DecidableEq

structure WebBrokerChannelEntry where
  produceTo : Option String
  consumeFrom : Option String
  policies : PolicyLists
  deriving DecidableEq

/-- The channels are a list for WebSub APIs and a map for WebBroker APIs. -/
inductive ChannelsValue where
  | absent
  | slice (entries : List ChannelEntry)
  | mapping (entries : GoMap String WebBrokerChannelEntry)
  deriving DecidableEq

structure ReceiverEntry where
  name : String
  type : String
  deriving DecidableEq

structure BrokerDriverEntry where
  name : String
  type : String
  properties : String
  deriving DecidableEq

structure EventChannelResource where
  uuid : String
  name : String
  kind : String
  context : String
  version : String
  deleted : Bool
  channels : ChannelsValue
  receiver : ReceiverEntry
  brokerDriver : BrokerDriverEntry
  policies : PolicyLists
  deriving DecidableEq

structure HandlerConfig where
  runtime : RuntimeConfig
  kafkaConfig : String

def resolveBrokerDriver (cfg : HandlerConfig) (driver : BrokerDriverEntry) : BrokerDriverSpec where
  type := if driver.type = "" then "kafka" else driver.type
  config := if driver.properties = "" then cfg.kafkaConfig else driver.properties

def webSubPolicies (lists : PolicyLists) : PolicyBindings where
  subscribe := lists.phase "subscribe"
  unsubscribe := lists.phase "unsubscribe"
  inbound := lists.phase "inbound"
  outbound := lists.phase "outbound"

def mediationPolicies (lists : PolicyLists) : ProtocolMediationPolicies where
  onConnectionInit := lists.phase "on_connection_init"
  onProduce := lists.phase "on_produce"
  onConsume := lists.phase "on_consume"

def toWebSubApiBinding (cfg : HandlerConfig) (ecr : EventChannelResource) : WebSubApiBinding where
  apiID := ecr.uuid
  name := ecr.name
  version := ecr.version
  context := ecr.context
  vhost := ""
  channels :=
    match ecr.channels with
    | .slice entries => entries.map fun entry => ⟨entry.name, webSubPolicies entry.policies⟩
    | _ => []
  brokerDriver := resolveBrokerDriver cfg ecr.brokerDriver
  policies := webSubPolicies ecr.policies

def toWebBrokerChannel (entry : WebBrokerChannelEntry) : WebBrokerChannelDef where
  produceTo := entry.produceTo.filter (· ≠ "")
  consumeFrom := entry.consumeFrom.filter (· ≠ "")
  policies := mediationPolicies entry.policies

def toWebBrokerApiBinding (cfg : HandlerConfig) (ecr : EventChannelResource) :
    WebBrokerApiBinding where
  apiID := ecr.uuid
  name := ecr.name
  version := ecr.version
  context := ecr.context
  vhost := ""
  receiverType := ecr.receiver.type
  brokerDriver := resolveBrokerDriver cfg ecr.brokerDriver
  policies := mediationPolicies ecr.policies
  channels :=
    match ecr.channels with
    | .mapping entries =>
      insertAll ∅ (entries.entries.map fun entry => (entry.1, toWebBrokerChannel entry.2))
    | _ => ∅

/-! ## Bindings of a resource -/

def EventChannelResource.addition (cfg : HandlerConfig) (ecr : EventChannelResource) :
    Option Addition :=
  if ecr.kind = "WebSubApi" then some ((toWebSubApiBinding cfg ecr).addition cfg.runtime)
  else if ecr.kind = "WebBrokerApi" then some (toWebBrokerApiBinding cfg ecr).addition
  else none

theorem EventChannelResource.name_of_addition {cfg : HandlerConfig} {ecr : EventChannelResource}
    {addition : Addition} (haddition : ecr.addition cfg = some addition) :
    addition.name = ecr.name := by
  unfold EventChannelResource.addition at haddition
  split_ifs at haddition
  · rw [← Option.some.inj haddition]
    rfl
  · rw [← Option.some.inj haddition]
    rfl

def addBinding (cfg : HandlerConfig) (world : AddWorld) (runtime : Runtime)
    (ecr : EventChannelResource) : Runtime × Option String :=
  if ecr.kind = "WebSubApi" then
    addWebSubApiBinding cfg.runtime world runtime (toWebSubApiBinding cfg ecr)
  else if ecr.kind = "WebBrokerApi" then
    addWebBrokerApiBinding world runtime (toWebBrokerApiBinding cfg ecr)
  else (runtime, some ("unsupported kind: " ++ ecr.kind))

theorem addBinding_eq (cfg : HandlerConfig) (world : AddWorld) (runtime : Runtime)
    (ecr : EventChannelResource) :
    addBinding cfg world runtime ecr =
      (ecr.addition cfg).elim (runtime, some ("unsupported kind: " ++ ecr.kind))
        (runtime.add world) := by
  unfold addBinding EventChannelResource.addition
  split_ifs <;> rfl

def removeBinding (runtime : Runtime) (ecr : EventChannelResource) : Runtime × Option String :=
  if ecr.kind = "WebSubApi" then (removeWebSubApiBinding runtime ecr.name, none)
  else if ecr.kind = "WebBrokerApi" then (removeWebBrokerApiBinding runtime ecr.name, none)
  else (runtime, some ("unsupported kind: " ++ ecr.kind))

/-! ## Handling a snapshot -/

structure Handler where
  current : GoMap String EventChannelResource
  runtime : Runtime

def Handler.new : Handler :=
  ⟨∅, .empty⟩

/-- A snapshot, the orders in which its maps are visited, and what happens outside during the
addition of each resource. -/
structure SnapshotCall where
  resources : List EventChannelResource
  iteration : MapIteration String
  world : String → AddWorld

def incomingResources (resources : List EventChannelResource) :
    GoMap String EventChannelResource :=
  insertAll ∅ ((resources.filter fun ecr => ecr.uuid ≠ "" ∧ !ecr.deleted).map fun ecr =>
    (ecr.uuid, ecr))

/-- The resource that is no longer in the snapshot; an error of the removal is only logged. -/
def removeAbsent (current incoming : GoMap String EventChannelResource) (runtime : Runtime)
    (uuid : String) : Runtime :=
  match current.lookup uuid with
  | some old => if uuid ∈ incoming then runtime else (removeBinding runtime old).1
  | none => runtime

/-- One resource of the snapshot: an update is a removal and an addition. -/
def applyResource (cfg : HandlerConfig) (world : AddWorld)
    (current : GoMap String EventChannelResource) (runtime : Runtime)
    (ecr : EventChannelResource) (uuid : String) : Runtime × Option String :=
  match current.lookup uuid with
  | some old =>
    if old = ecr then (runtime, none)
    else addBinding cfg world (removeBinding runtime old).1 ecr
  | none => addBinding cfg world runtime ecr

def applyResources (cfg : HandlerConfig) (world : String → AddWorld)
    (current incoming : GoMap String EventChannelResource) :
    Runtime → List String → Runtime × Option String
  | runtime, [] => (runtime, none)
  | runtime, uuid :: rest =>
    match incoming.lookup uuid with
    | none => applyResources cfg world current incoming runtime rest
    | some ecr =>
      match applyResource cfg (world uuid) current runtime ecr uuid with
      | (runtime, some problem) =>
        (runtime, some ("failed to add binding \"" ++ ecr.name ++ "\": " ++ problem))
      | (runtime, none) => applyResources cfg world current incoming runtime rest

def handleResources (cfg : HandlerConfig) (handler : Handler) (call : SnapshotCall) :
    Handler × Option String :=
  let incoming := incomingResources call.resources
  let removed := (call.iteration.order 0 handler.current.keys).foldl
    (removeAbsent handler.current incoming) handler.runtime
  match applyResources cfg call.world handler.current incoming removed
      (call.iteration.order 1 incoming.keys) with
  | (runtime, some problem) => (⟨handler.current, runtime⟩, some problem)
  | (runtime, none) => (⟨incoming, runtime⟩, none)

end ApiPlatform.EventGateway
