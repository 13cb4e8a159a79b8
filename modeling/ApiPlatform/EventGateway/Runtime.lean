import ApiPlatform.Controller.PolicyVersion
import ApiPlatform.EventGateway.Topics

/-!
# Bindings of the event-gateway runtime

`AddWebSubApiBinding`, `RemoveWebSubApiBinding` and their WebBroker siblings of
`runtime/runtime.go`.  Every table of the runtime is keyed by the name of the
binding, the chains of the policy engine by route keys.  An addition that fails
leaves what it has done so far.
-/

namespace ApiPlatform.EventGateway

open Foundation

/-! ## Configured bindings -/

/-- The parameters of a policy are passed on unread, as their JSON text. -/
structure PolicyRef where
  name : String
  version : String
  params : String
  deriving DecidableEq

structure PolicyBindings where
  subscribe : List PolicyRef := []
  unsubscribe : List PolicyRef := []
  inbound : List PolicyRef := []
  outbound : List PolicyRef := []
  deriving DecidableEq

structure ChannelDef where
  name : String
  policies : PolicyBindings
  deriving DecidableEq

structure BrokerDriverSpec where
  type : String
  config : String
  deriving DecidableEq

structure WebSubApiBinding where
  apiID : String
  name : String
  version : String
  context : String
  vhost : String
  channels : List ChannelDef
  brokerDriver : BrokerDriverSpec
  policies : PolicyBindings
  deriving DecidableEq

structure ProtocolMediationPolicies where
  onConnectionInit : List PolicyRef := []
  onProduce : List PolicyRef := []
  onConsume : List PolicyRef := []
  deriving DecidableEq

structure WebBrokerChannelDef where
  produceTo : Option String
  consumeFrom : Option String
  policies : ProtocolMediationPolicies
  deriving DecidableEq

structure WebBrokerApiBinding where
  apiID : String
  name : String
  version : String
  context : String
  vhost : String
  receiverType : String
  brokerDriver : BrokerDriverSpec
  policies : ProtocolMediationPolicies
  channels : GoMap String WebBrokerChannelDef
  deriving DecidableEq

/-! ## State of the runtime -/

structure ChannelChainKeySet where
  subscribeChainKey : String
  unsubscribeChainKey : String
  inboundChainKey : String
  outboundChainKey : String
  deriving DecidableEq

structure ChannelBinding where
  apiID : String
  name : String
  mode : String
  context : String
  version : String
  vhost : String
  chainKeys : ChannelChainKeySet
  channels : GoMap String String
  channelChainKeys : GoMap String ChannelChainKeySet
  deriving DecidableEq

structure PolicySpec where
  name : String
  version : String
  params : String
  deriving DecidableEq

structure ChannelPolicyChains where
  connInitKey : String
  produceKey : String
  consumeKey : String
  deriving DecidableEq

/-- What a receiver is told about its binding.  The last three fields are the metadata of WebBroker
APIs; maps are visited in their stored order. -/
structure ChannelInfo where
  name : String
  mode : String
  context : String
  version : String
  vhost : String
  channels : GoMap String String := ∅
  internalSubTopic : String := ""
  topics : List String := []
  channelChains : GoMap String ChannelPolicyChains := ∅
  topicToChannel : GoMap String String := ∅
  channelTopics : GoMap String (String × String) := ∅
  deriving DecidableEq

structure Receiver where
  type : String
  channel : ChannelInfo
  brokerDriver : BrokerDriverSpec
  deriving DecidableEq

structure Runtime where
  chains : GoMap String (List PolicySpec)
  bindings : GoMap String ChannelBinding
  activeBrokerDrivers : GoMap String BrokerDriverSpec
  activeReceivers : GoMap String Receiver
  bindingTopics : GoMap String (List String)
  deriving DecidableEq

def Runtime.empty : Runtime :=
  ⟨∅, ∅, ∅, ∅, ∅⟩

structure RuntimeConfig where
  sha256 : Bytes → Bytes
  webSub : WebSubTopics

/-! ## Building chains -/

def generateRouteKey (method fullPath vhost : String) : String :=
  method ++ "|" ++ fullPath ++ "|" ++ vhost

def defaultVhost (vhost : String) : String :=
  if vhost = "" then "*" else vhost

/-- One call of `buildChain`, with the text that its error is wrapped in. -/
structure ChainBuild where
  problem : String
  routeKey : String
  policies : List PolicyRef
  deriving DecidableEq

/-- No system policy is defined, so the injection of system policies adds none. -/
def ChainBuild.specs (build : ChainBuild) : List PolicySpec :=
  build.policies.map fun policy =>
    ⟨policy.name, Controller.majorVersion policy.version, policy.params⟩

/-- The errors of everything outside the runtime during one addition. -/
structure AddWorld where
  buildChain : String → List PolicySpec → Option String
  createBrokerDriver : Option String
  createReceiver : Option String
  startReceiver : Option String

def buildChain (world : AddWorld) (chains : GoMap String (List PolicySpec)) (build : ChainBuild) :
    Except String (GoMap String (List PolicySpec)) :=
  if build.routeKey = "" then .ok chains
  else if build.specs = [] then .ok chains
  else
    match world.buildChain build.routeKey build.specs with
    | some problem => .error ("failed to build chain " ++ build.routeKey ++ ": " ++ problem)
    | none => .ok (chains.insert build.routeKey build.specs)

/-- The chains that were built before the first error, and the error. -/
def buildChains (world : AddWorld) :
    GoMap String (List PolicySpec) → List ChainBuild →
      GoMap String (List PolicySpec) × Option String
  | chains, [] => (chains, none)
  | chains, build :: rest =>
    match buildChain world chains build with
    | .error problem => (chains, some (build.problem ++ ": " ++ problem))
    | .ok chains => buildChains world chains rest

/-! ## One addition -/

structure Addition where
  label : String
  name : String
  chains : List ChainBuild
  binding : ChannelBinding
  brokerDriver : BrokerDriverSpec
  topics : Option (List String)
  receiver : Receiver

def Addition.failed (addition : Addition) (step problem : String) : String :=
  "failed to " ++ step ++ " for " ++ addition.label ++ " \"" ++ addition.name ++ "\": " ++ problem

def Runtime.registerBinding (runtime : Runtime) (addition : Addition) : Runtime :=
  { runtime with bindings := runtime.bindings.insert addition.name addition.binding }

def Runtime.trackBrokerDriver (runtime : Runtime) (addition : Addition) : Runtime :=
  { runtime with
    activeBrokerDrivers := runtime.activeBrokerDrivers.insert addition.name addition.brokerDriver
    bindingTopics :=
      match addition.topics with
      | some topics => runtime.bindingTopics.insert addition.name topics
      | none => runtime.bindingTopics }

def Runtime.trackReceiver (runtime : Runtime) (addition : Addition) : Runtime :=
  { runtime with
    activeReceivers := runtime.activeReceivers.insert addition.name addition.receiver }

def Runtime.add (world : AddWorld) (runtime : Runtime) (addition : Addition) :
    Runtime × Option String :=
  match buildChains world runtime.chains addition.chains with
  | (chains, some problem) => ({ runtime with chains }, some problem)
  | (chains, none) =>
    let runtime := { runtime with chains }.registerBinding addition
    match world.createBrokerDriver with
    | some problem => (runtime, some (addition.failed "create broker-driver" problem))
    | none =>
      let runtime := runtime.trackBrokerDriver addition
      match world.createReceiver with
      | some problem => (runtime, some (addition.failed "create receiver" problem))
      | none =>
        let runtime := runtime.trackReceiver addition
        -- the receiver is tracked before it is started
        match world.startReceiver with
        | some problem => (runtime, some (addition.failed "start receiver" problem))
        | none => (runtime, none)

def resolvedDriver (spec : BrokerDriverSpec) : BrokerDriverSpec :=
  { spec with type := if spec.type = "" then "kafka" else spec.type }

/-! ## WebSub APIs -/

def ensureLeadingSlash (value : String) : String :=
  if value = "" ∨ value = "." then "/"
  else if hasPrefix value "/" then value
  else "/" ++ value

def webSubApiBasePath (context version : String) : String :=
  let trimmed := trimSpace context
  if trimmed = "" then
    if version = "" then "" else joinPath "/" version
  else if contains trimmed "$version" then
    ensureLeadingSlash (cleanPath (replaceAll trimmed "$version" version))
  else
    let cleaned := ensureLeadingSlash (cleanPath trimmed)
    if version = "" then cleaned
    else if hasSuffix cleaned ("/" ++ trimPrefix version "/") then cleaned
    else joinPath cleaned version

namespace WebSubApiBinding

variable (cfg : RuntimeConfig) (wsb : WebSubApiBinding)

def hubPath : String :=
  webSubApiBasePath wsb.context wsb.version ++ "/hub"

def keysAt (inboundPath path : String) : ChannelChainKeySet where
  subscribeChainKey := generateRouteKey "SUBSCRIBE" path (defaultVhost wsb.vhost)
  unsubscribeChainKey := generateRouteKey "UNSUBSCRIBE" path (defaultVhost wsb.vhost)
  inboundChainKey := generateRouteKey "SUB" inboundPath (defaultVhost wsb.vhost)
  outboundChainKey := generateRouteKey "DELIVER" path (defaultVhost wsb.vhost)

def apiKeys : ChannelChainKeySet :=
  wsb.keysAt (webSubApiBasePath wsb.context wsb.version ++ "/webhook-receiver") wsb.hubPath

def channelKeys (channelName : String) : ChannelChainKeySet :=
  wsb.keysAt (wsb.hubPath ++ "/" ++ channelName) (wsb.hubPath ++ "/" ++ channelName)

def chainsAt (keys : ChannelChainKeySet) (policies : PolicyBindings) : List ChainBuild :=
  let problem := "failed to build chains for WebSubApi \"" ++ wsb.name ++ "\""
  [⟨problem, keys.subscribeChainKey, policies.subscribe⟩,
    ⟨problem, keys.unsubscribeChainKey, policies.unsubscribe⟩,
    ⟨problem, keys.inboundChainKey, policies.inbound⟩,
    ⟨problem, keys.outboundChainKey, policies.outbound⟩]

def policyChannels : List ChannelDef :=
  wsb.channels.filter fun channel => channel.policies ≠ {}

def chainBuilds : List ChainBuild :=
  wsb.chainsAt wsb.apiKeys wsb.policies ++
    wsb.policyChannels.flatMap fun channel =>
      wsb.chainsAt (wsb.channelKeys channel.name) channel.policies

def channelChainKeys : GoMap String ChannelChainKeySet :=
  insertAll ∅ (wsb.policyChannels.map fun channel => (channel.name, wsb.channelKeys channel.name))

def topicOf (channelName : String) : String :=
  webSubApiTopicName cfg.sha256 (goBytes wsb.name) (goBytes wsb.version) (goBytes channelName)

def channelTopics : GoMap String String :=
  insertAll ∅ (wsb.channels.map fun channel => (channel.name, wsb.topicOf cfg channel.name))

def internalSubTopic : String :=
  webSubSubscriptionSyncTopic cfg.sha256 cfg.webSub (goBytes wsb.name) (goBytes wsb.version)

def addition : Addition where
  label := "WebSubApi"
  name := wsb.name
  chains := wsb.chainBuilds
  binding :=
    { apiID := wsb.apiID
      name := wsb.name
      mode := "websub"
      context := wsb.context
      version := wsb.version
      vhost := defaultVhost wsb.vhost
      chainKeys := wsb.apiKeys
      channels := wsb.channelTopics cfg
      channelChainKeys := wsb.channelChainKeys }
  brokerDriver := resolvedDriver wsb.brokerDriver
  topics := some ((wsb.channelTopics cfg).entries.map (·.2) ++ [wsb.internalSubTopic cfg])
  receiver :=
    { type := "websub"
      channel :=
        { name := wsb.name
          mode := "websub"
          context := wsb.context
          version := wsb.version
          vhost := defaultVhost wsb.vhost
          channels := wsb.channelTopics cfg
          internalSubTopic := wsb.internalSubTopic cfg }
      brokerDriver := resolvedDriver wsb.brokerDriver }

end WebSubApiBinding

def addWebSubApiBinding (cfg : RuntimeConfig) (world : AddWorld) (runtime : Runtime)
    (wsb : WebSubApiBinding) : Runtime × Option String :=
  runtime.add world (wsb.addition cfg)

/-! ## WebBroker APIs -/

def WebBrokerChannelDef.produceTopic (channel : WebBrokerChannelDef) (name : String) : String :=
  match channel.produceTo with
  | some topic => if topic = "" then normalizeTopicSegment name else topic
  | none => normalizeTopicSegment name

def WebBrokerChannelDef.consumeTopic (channel : WebBrokerChannelDef) (name : String) : String :=
  match channel.consumeFrom with
  | some topic => if topic = "" then normalizeTopicSegment name else topic
  | none => normalizeTopicSegment name

namespace WebBrokerApiBinding

variable (wbb : WebBrokerApiBinding)

def basePath : String :=
  if wbb.version = "" then wbb.context else joinPath wbb.context wbb.version

def channelKeys (channelName : String) : ChannelPolicyChains :=
  let suffix := if channelName = "" then "" else "_" ++ channelName
  { connInitKey :=
      generateRouteKey ("CONNECT_INIT" ++ suffix) wbb.basePath (defaultVhost wbb.vhost)
    produceKey := generateRouteKey ("PRODUCE" ++ suffix) wbb.basePath (defaultVhost wbb.vhost)
    consumeKey := generateRouteKey ("CONSUME" ++ suffix) wbb.basePath (defaultVhost wbb.vhost) }

def policiesOf (channelName : String) : ProtocolMediationPolicies :=
  if channelName = "" then wbb.policies
  else
    match wbb.channels.lookup channelName with
    | some channel => channel.policies
    | none => {}

def chainsAt (problem channelName : String) : List ChainBuild :=
  let keys := wbb.channelKeys channelName
  let policies := wbb.policiesOf channelName
  [⟨problem, keys.connInitKey, policies.onConnectionInit⟩,
    ⟨problem, keys.produceKey, policies.onProduce⟩,
    ⟨problem, keys.consumeKey, policies.onConsume⟩]

def chainBuilds : List ChainBuild :=
  wbb.chainsAt ("failed to build API-level chains for WebBrokerApi \"" ++ wbb.name ++ "\"") "" ++
    wbb.channels.keys.flatMap fun channelName =>
      wbb.chainsAt ("failed to build chains for channel \"" ++ channelName ++
        "\" in WebBrokerApi \"" ++ wbb.name ++ "\"") channelName

/-- Only the key of the API-level connection chain is kept with the binding. -/
def addition : Addition where
  label := "WebBrokerApi"
  name := wbb.name
  chains := wbb.chainBuilds
  binding :=
    { apiID := wbb.apiID
      name := wbb.name
      mode := "protocol-mediation"
      context := wbb.context
      version := wbb.version
      vhost := defaultVhost wbb.vhost
      chainKeys := ⟨(wbb.channelKeys "").connInitKey, "", "", ""⟩
      channels := ∅
      channelChainKeys := ∅ }
  brokerDriver := resolvedDriver wbb.brokerDriver
  topics := none
  receiver :=
    { type :=
        if wbb.receiverType = "" then "websocket-broker-api"
        else wbb.receiverType ++ "-broker-api"
      channel :=
        { name := wbb.name
          mode := "protocol-mediation"
          context := wbb.context
          version := wbb.version
          vhost := defaultVhost wbb.vhost
          topics := wbb.channels.entries.flatMap fun entry =>
            [entry.2.produceTopic entry.1, entry.2.consumeTopic entry.1].dedup
          channelChains := insertAll ∅
            (wbb.channels.keys.map fun name => (name, wbb.channelKeys name))
          topicToChannel := insertAll ∅
            (wbb.channels.entries.map fun entry => (entry.2.consumeTopic entry.1, entry.1))
          channelTopics := insertAll ∅ (wbb.channels.entries.map fun entry =>
            (entry.1, entry.2.produceTopic entry.1, entry.2.consumeTopic entry.1)) }
      brokerDriver := resolvedDriver wbb.brokerDriver }

end WebBrokerApiBinding

def addWebBrokerApiBinding (world : AddWorld) (runtime : Runtime) (wbb : WebBrokerApiBinding) :
    Runtime × Option String :=
  runtime.add world wbb.addition

/-! ## Removals -/

def ChannelChainKeySet.keys (set : ChannelChainKeySet) : List String :=
  [set.subscribeChainKey, set.unsubscribeChainKey, set.inboundChainKey,
    set.outboundChainKey].filter (· ≠ "")

def ChannelBinding.keys (binding : ChannelBinding) : List String :=
  binding.chainKeys.keys ++ binding.channelChainKeys.entries.flatMap fun entry => entry.2.keys

def Runtime.bindingKeys (runtime : Runtime) (name : String) : List String :=
  match runtime.bindings.lookup name with
  | some binding => binding.keys
  | none => []

def Runtime.removeTables (runtime : Runtime) (name : String) : Runtime :=
  { runtime with
    activeReceivers := runtime.activeReceivers.erase name
    activeBrokerDrivers := runtime.activeBrokerDrivers.erase name
    chains := eraseAll runtime.chains (runtime.bindingKeys name)
    bindings := runtime.bindings.erase name }

def Runtime.topicsToDelete (runtime : Runtime) (name : String) : List String :=
  match runtime.activeBrokerDrivers.lookup name with
  | some _ => (runtime.bindingTopics.lookup name).getD []
  | none => []

def removeWebSubApiBinding (runtime : Runtime) (name : String) : Runtime :=
  let bindingTopics :=
    match runtime.activeBrokerDrivers.lookup name with
    | some _ => runtime.bindingTopics.erase name
    | none => runtime.bindingTopics
  { runtime.removeTables name with bindingTopics }

def removeWebBrokerApiBinding (runtime : Runtime) (name : String) : Runtime :=
  runtime.removeTables name

/-! ## What an addition leaves -/

def registeredChains (builds : List ChainBuild) : List (String × List PolicySpec) :=
  (builds.filter fun build => build.routeKey ≠ "" ∧ build.specs ≠ []).map fun build =>
    (build.routeKey, build.specs)

theorem registeredChains_cons (build : ChainBuild) (rest : List ChainBuild) :
    registeredChains (build :: rest) = registeredChains [build] ++ registeredChains rest := by
  rw [registeredChains, registeredChains, registeredChains, ← List.map_append, ← List.filter_append]
  rfl

theorem buildChain_ok {world : AddWorld} {chains next : GoMap String (List PolicySpec)}
    {build : ChainBuild} (hok : buildChain world chains build = .ok next) :
    next = insertAll chains (registeredChains [build]) := by
  unfold buildChain at hok
  split_ifs at hok with hkey hspecs
  · rw [← Except.ok.inj hok]
    simp [registeredChains, hkey, insertAll]
  · rw [← Except.ok.inj hok]
    simp [registeredChains, hspecs, insertAll]
  · split at hok
    · cases hok
    · rw [← Except.ok.inj hok]
      simp [registeredChains, hkey, hspecs, insertAll]

theorem buildChains_ok {world : AddWorld} {builds : List ChainBuild} :
    ∀ {chains : GoMap String (List PolicySpec)}, (buildChains world chains builds).2 = none →
      (buildChains world chains builds).1 = insertAll chains (registeredChains builds) := by
  induction builds with
  | nil => exact fun _ => rfl
  | cons build rest ih =>
    intro chains hok
    cases hbuild : buildChain world chains build with
    | error problem => simp [buildChains, hbuild] at hok
    | ok next =>
      rw [buildChains, hbuild] at hok ⊢
      rw [registeredChains_cons, insertAll_append, ← buildChain_ok hbuild]
      exact ih hok

def Runtime.installed (runtime : Runtime) (addition : Addition) : Runtime :=
  let chains := insertAll runtime.chains (registeredChains addition.chains)
  let runtime := { runtime with chains }.registerBinding addition
  (runtime.trackBrokerDriver addition).trackReceiver addition

theorem Runtime.add_ok {world : AddWorld} {runtime : Runtime} {addition : Addition}
    (hok : (runtime.add world addition).2 = none) :
    (runtime.add world addition).1 = runtime.installed addition := by
  have hchains : (buildChains world runtime.chains addition.chains).2 = none →
      (buildChains world runtime.chains addition.chains).1 =
        insertAll runtime.chains (registeredChains addition.chains) := buildChains_ok
  unfold Runtime.add at hok ⊢
  revert hchains hok
  obtain ⟨chains, problem⟩ := buildChains world runtime.chains addition.chains
  intro hok hchains
  cases problem with
  | some problem => cases hok
  | none =>
    obtain rfl := hchains rfl
    cases hdriver : world.createBrokerDriver with
    | some problem => simp [hdriver] at hok
    | none =>
      cases hreceiver : world.createReceiver with
      | some problem => simp [hdriver, hreceiver] at hok
      | none =>
        cases hstart : world.startReceiver with
        | some problem => simp [hdriver, hreceiver, hstart] at hok
        | none => rfl

end ApiPlatform.EventGateway
